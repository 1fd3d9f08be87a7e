import FleetConfig.Number.Shortest
import Mathlib

/-!
# The texts of numbers

An integer is written with digits and a sign alone.  The text of a finite double
always holds a point or an exponent as well, so it is never that of an integer;
and neither has a letter other than the mark of an exponent.
-/

namespace FleetConfig

/-- The characters of integers. -/
def isIntegerCharacter (character : Char) : Bool :=
  character.isDigit || character == '-'

/-- The characters of finite doubles. -/
def isDoubleCharacter (character : Char) : Bool :=
  character.isDigit || ['-', '+', '.', 'e'].contains character

/-- An integer is written with digits and a sign. -/
theorem isIntegerCharacter_of_mem
    {value : Int}
    {character : Char}
    (member : character ∈ (toString value).toList) :
    isIntegerCharacter character = true := by
  have digit :
      ∀ number : Nat,
        character ∈ number.repr.toList →
        isIntegerCharacter character = true := by
    intro number listed
    rw [Nat.toList_repr] at listed
    have isDigit :=
      Nat.isDigit_of_mem_toDigits (by decide) (by decide) listed
    simp [isIntegerCharacter, isDigit]
  rw [Int.toString_eq_repr, Int.repr_eq_if] at member
  split at member
  case isTrue =>
    exact digit _ member
  case isFalse =>
    rw [String.toList_append, List.mem_append] at member
    rcases member with sign | rest
    · rw [List.mem_singleton.mp sign]
      rfl
    · exact digit _ rest

theorem toString_int_ne_nil
    (value : Int) :
    (toString value).toList ≠ [] := by
  rw [Int.toString_eq_repr, Int.repr_eq_if]
  split
  case isTrue =>
    rw [Nat.toList_repr]
    exact Nat.toDigits_ne_nil
  case isFalse =>
    simp

namespace Binary64

/-- The digits of a decimal are digits. -/
def Decimal.HasDigits (decimal : Decimal) : Prop :=
  ∀ character ∈ decimal.digits, character.isDigit = true

theorem hasDigits_trimmed
    (number : Nat)
    (exponent : Int) :
    (trimmed number exponent).HasDigits := by
  intro character member
  have listed : character ∈ Nat.toDigits 10 number := by
    rw [trimmed, List.mem_reverse] at member
    exact List.mem_reverse.mp ((List.dropWhile_suffix _).subset member)
  exact Nat.isDigit_of_mem_toDigits (by decide) (by decide) listed

section Search

-- Otherwise unfolding the search computes with 2^1074 in search of a neighbour.
attribute [local irreducible] neighbours

theorem shortestFrom_succ
    (magnitude : Nat)
    (point : Int)
    (attempts count : Nat) :
    shortestFrom magnitude point (attempts + 1) count =
      match
        (neighbours magnitude (point - count)).find?
          (readsBack magnitude · (point - count))
      with
      | some number =>
          some (trimmed number (point - count))
      | none =>
          shortestFrom magnitude point attempts (count + 1) :=
  rfl

end Search

theorem hasDigits_shortestFrom
    {magnitude attempts count : Nat}
    {point : Int}
    {decimal : Decimal}
    (found : shortestFrom magnitude point attempts count = some decimal) :
    decimal.HasDigits := by
  induction attempts generalizing count with
  | zero =>
      have nothing : shortestFrom magnitude point 0 count = none := rfl
      rw [nothing] at found
      contradiction
  | succ attempts inductionHypothesis =>
      rw [shortestFrom_succ] at found
      generalize List.find? _ _ = candidate? at found
      cases candidate? with
      | some number =>
          cases found
          exact hasDigits_trimmed _ _
      | none =>
          exact inductionHypothesis found

theorem hasDigits_shortest
    (magnitude : Nat) :
    (shortest magnitude).HasDigits := by
  unfold shortest
  generalize candidate :
    shortestFrom magnitude (decimalPoint (unitsOf magnitude)) 17 1 = found?
  cases found? with
  | some decimal =>
      exact hasDigits_shortestFrom candidate
  | none =>
      exact fun _ member => absurd member List.not_mem_nil

theorem isDoubleCharacter_of_isDigit
    {character : Char}
    (digit : character.isDigit = true) :
    isDoubleCharacter character = true := by
  simp [isDoubleCharacter, digit]

theorem isDoubleCharacter_exponentText
    (exponent : Int) :
    ∀ character ∈ exponentText exponent,
      isDoubleCharacter character = true := by
  have digits :
      ∀ character ∈ Nat.toDigits 10 exponent.natAbs,
        isDoubleCharacter character = true :=
    fun character listed => isDoubleCharacter_of_isDigit
      (Nat.isDigit_of_mem_toDigits (by decide) (by decide) listed)
  unfold exponentText
  refine List.forall_mem_cons.mpr ⟨?_, ?_⟩
  · split <;> rfl
  · split
    case isTrue =>
      exact List.forall_mem_cons.mpr ⟨rfl, digits⟩
    case isFalse =>
      exact digits

/-- Laying digits out adds zeros, signs, a point or the mark of an exponent. -/
theorem isDoubleCharacter_layOut
    {decimal : Decimal}
    (hasDigits : decimal.HasDigits) :
    ∀ character ∈ layOut decimal, isDoubleCharacter character = true := by
  have digits :
      ∀ character ∈ decimal.digits, isDoubleCharacter character = true :=
    fun character listed =>
      isDoubleCharacter_of_isDigit (hasDigits character listed)
  have zeros :
      ∀ count,
        ∀ character ∈ List.replicate count '0',
          isDoubleCharacter character = true := by
    intro count character listed
    rw [List.eq_of_mem_replicate listed]
    rfl
  unfold layOut
  dsimp only
  split
  case isTrue =>
    refine List.forall_mem_append.mpr ⟨?_,
      List.forall_mem_cons.mpr ⟨rfl, isDoubleCharacter_exponentText _⟩⟩
    generalize decimal.digits = mantissa at digits
    match mantissa with
    | [] =>
        exact digits
    | [_] =>
        exact digits
    | digit :: next :: rest =>
        obtain ⟨first, others⟩ := List.forall_mem_cons.mp digits
        exact List.forall_mem_cons.mpr
          ⟨first, List.forall_mem_cons.mpr ⟨rfl, others⟩⟩
  case isFalse =>
    split
    case isTrue =>
      exact List.forall_mem_cons.mpr ⟨rfl, List.forall_mem_cons.mpr
        ⟨rfl, List.forall_mem_append.mpr ⟨zeros _, digits⟩⟩⟩
    case isFalse =>
      split
      case isTrue =>
        refine List.forall_mem_append.mpr
          ⟨List.forall_mem_append.mpr ⟨digits, zeros _⟩, ?_⟩
        exact List.all_eq_true.mp rfl
      case isFalse =>
        refine List.forall_mem_append.mpr ⟨?_,
          List.forall_mem_cons.mpr ⟨rfl, ?_⟩⟩
        · exact fun character listed =>
            digits character (List.mem_of_mem_take listed)
        · exact fun character listed =>
            digits character (List.mem_of_mem_drop listed)

/-- Digits are laid out around a point or before an exponent. -/
theorem mark_mem_layOut
    (decimal : Decimal) :
    '.' ∈ layOut decimal ∨ 'e' ∈ layOut decimal := by
  unfold layOut
  dsimp only
  repeat' split
  all_goals simp

variable {negative : Bool} {magnitude : Fin magnitudeCount}

theorem toList_text_finite :
    (finite negative magnitude).text.toList =
      (if negative then ['-'] else []) ++ magnitudeText magnitude :=
  String.toList_ofList

/-- A finite double is written with digits, signs, a point and the mark of an exponent. -/
theorem isDoubleCharacter_of_mem
    {character : Char}
    (member : character ∈ (finite negative magnitude).text.toList) :
    isDoubleCharacter character = true := by
  have magnitudeCharacters :
      ∀ character ∈ magnitudeText magnitude,
        isDoubleCharacter character = true := by
    unfold magnitudeText
    split
    case isTrue =>
      exact List.all_eq_true.mp rfl
    case isFalse =>
      exact isDoubleCharacter_layOut (hasDigits_shortest _)
  rw [toList_text_finite, List.mem_append] at member
  rcases member with sign | rest
  · split at sign
    case isTrue =>
      rw [List.mem_singleton.mp sign]
      rfl
    case isFalse =>
      contradiction
  · exact magnitudeCharacters character rest

/-- The text of a finite double has a point or an exponent. -/
theorem mark_mem_text_finite :
    '.' ∈ (finite negative magnitude).text.toList ∨
      'e' ∈ (finite negative magnitude).text.toList := by
  have marked :
      '.' ∈ magnitudeText magnitude ∨ 'e' ∈ magnitudeText magnitude := by
    unfold magnitudeText
    split
    case isTrue =>
      decide
    case isFalse =>
      exact mark_mem_layOut _
  rw [toList_text_finite]
  exact marked.imp (List.mem_append_right _) (List.mem_append_right _)

/-- The words for doubles that are not finite have letters that finite ones do not have. -/
theorem text_finite_ne
    {double : Binary64}
    (notFinite : double.isFinite = false) :
    (finite negative magnitude).text ≠ double.text := by
  intro same
  have characters :
      ∀ character ∈ double.text.toList,
        isDoubleCharacter character = true := by
    intro character member
    rw [← same] at member
    exact isDoubleCharacter_of_mem member
  cases double with
  | nan =>
      exact absurd (characters 'n' (List.mem_cons_self ..)) (by decide)
  | infinite infiniteNegative =>
      cases infiniteNegative with
      | true =>
          exact absurd
            (characters 'i' (List.mem_cons_of_mem _ (List.mem_cons_self ..)))
            (by decide)
      | false =>
          exact absurd (characters 'i' (List.mem_cons_self ..)) (by decide)
  | finite _ _ =>
      contradiction

/-- The text of a double tells whether it is finite. -/
theorem isFinite_eq_of_text_eq
    {left right : Binary64}
    (same : left.text = right.text) :
    left.isFinite = right.isFinite := by
  cases leftFinite : left.isFinite with
  | true =>
      cases rightFinite : right.isFinite with
      | true =>
          rfl
      | false =>
          match left, leftFinite with
          | .finite _ _, _ =>
              exact absurd same (text_finite_ne rightFinite)
  | false =>
      cases rightFinite : right.isFinite with
      | true =>
          match right, rightFinite with
          | .finite _ _, _ =>
              exact absurd same.symm (text_finite_ne leftFinite)
      | false =>
          rfl

/-- Doubles that are not finite are told by their words. -/
theorem eq_of_text_eq
    {left right : Binary64}
    (leftNotFinite : left.isFinite = false)
    (rightNotFinite : right.isFinite = false)
    (same : left.text = right.text) :
    left = right := by
  have words :
      ∀ double : Binary64,
        double.isFinite = false →
        double ∈ [nan, infinite false, infinite true] := by
    intro double notFinite
    match double, notFinite with
    | .nan, _ =>
        simp
    | .infinite false, _ =>
        simp
    | .infinite true, _ =>
        simp
  have distinct : ([nan, infinite false, infinite true].map text).Nodup := by
    decide
  exact List.inj_on_of_nodup_map distinct (words left leftNotFinite)
    (words right rightNotFinite) same

end Binary64

end FleetConfig
