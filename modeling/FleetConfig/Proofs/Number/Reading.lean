import FleetConfig.Number.Numeral
import FleetConfig.Proofs.Number.Rounding
import FleetConfig.Proofs.Number.Text

/-!
# Doubles are read back from their texts

The text of a finite double is a numeral, and the number that the numeral stands
for rounds to the double.  Since no number rounds to two doubles, the text of a
double tells which double it is.
-/

namespace FleetConfig

namespace Text

theorem digitValue?_of_isDigit
    {character : Char}
    (digit : character.isDigit = true) :
    digitValue? character = some (character.toNat - '0'.toNat) := by
  have bounds := Char.isDigit_iff_toNat.mp digit
  have inScript :
      (decide (0x30 ≤ character.toNat) &&
        decide (character.toNat < 0x30 + 10)) = true := by
    simp only [Char.reduceToNat] at bounds
    simp only [Bool.and_eq_true, decide_eq_true_eq]
    omega
  have scripts : zeroCodes = 0x30 :: zeroCodes.tail := rfl
  unfold digitValue?
  rw [scripts, List.find?_cons, inScript]
  rfl

theorem isDigit_of_isDigit
    {character : Char}
    (digit : character.isDigit = true) :
    isDigit character = true := by
  rw [isDigit, digitValue?_of_isDigit digit]
  rfl

theorem areDigits_of_areDigits
    {characters : List Char}
    (areDigits : ∀ character ∈ characters, character.isDigit = true) :
    ∀ character ∈ characters, isDigit character = true :=
  fun character member => isDigit_of_isDigit (areDigits character member)

/-- Decimal digits denote the same number in any script and in the first one. -/
theorem numberOfDigits_eq
    {characters : List Char}
    (digits : ∀ character ∈ characters, character.isDigit = true) :
    numberOfDigits characters = Nat.ofDigitChars 10 characters 0 := by
  unfold numberOfDigits Nat.ofDigitChars
  apply List.foldl_ext
  intro total character member
  rw [digitValue?_of_isDigit (digits character member)]
  rfl

end Text

namespace Numeral

/-- The number that a numeral stands for, its sign apart. -/
def size (numeral : Numeral) : ℚ :=
  Text.numberOfDigits (numeral.whole ++ numeral.fraction?.getD []) *
    10 ^ numeral.scale

/-- Text that digits do not run on into. -/
def EndsDigits (characters : List Char) : Prop :=
  ∀ character ∈ characters.head?, Text.isDigit character = false

theorem endsDigits_nil :
    EndsDigits [] := by
  intro character member
  contradiction

theorem endsDigits_cons
    {character : Char}
    (notDigit : Text.isDigit character = false)
    (rest : List Char) :
    EndsDigits (character :: rest) := by
  intro first member
  cases Option.mem_some.mp member
  exact notDigit

section Digits

variable {characters digits fraction rest : List Char} {negative : Bool}

/-- Digits are taken off the front up to where they end. -/
theorem splitDigits_append
    (areDigits : ∀ character ∈ digits, Text.isDigit character = true)
    (ends : EndsDigits rest) :
    splitDigits (digits ++ rest) = (digits, rest) := by
  unfold splitDigits
  rw [List.takeWhile_append_of_pos areDigits,
    List.dropWhile_append_of_pos areDigits]
  cases rest with
  | nil =>
      simp
  | cons character rest =>
      have notDigit := ends character rfl
      simp [notDigit]

/-- Text without a sign in front is left as it is. -/
theorem splitSign_of_ne
    (noSign :
      ∀ character ∈ characters.head?, character ≠ '+' ∧ character ≠ '-') :
    splitSign characters = (false, characters) := by
  unfold splitSign
  split
  case h_1 =>
    exact absurd rfl (noSign '+' rfl).1
  case h_2 =>
    exact absurd rfl (noSign '-' rfl).2
  case h_3 =>
    rfl

theorem ne_sign_of_isDigit
    {character : Char}
    (digit : Text.isDigit character = true) :
    character ≠ '+' ∧ character ≠ '-' := by
  constructor
  · rintro rfl
    exact absurd digit (by decide)
  · rintro rfl
    exact absurd digit (by decide)

/-- A minus is taken off the front of digits, and nothing else. -/
theorem splitSign_append
    (areDigits : ∀ character ∈ digits, Text.isDigit character = true)
    (notEmpty : digits ≠ [])
    (negative : Bool) :
    splitSign ((if negative then ['-'] else []) ++ (digits ++ rest)) =
      (negative, digits ++ rest) := by
  cases negative with
  | true =>
      rfl
  | false =>
      obtain ⟨first, others, rfl⟩ := List.exists_cons_of_ne_nil notEmpty
      refine splitSign_of_ne fun character member => ?_
      cases Option.mem_some.mp member
      exact ne_sign_of_isDigit (areDigits first List.mem_cons_self)

/-- Digits around a point are read as the parts of a numeral. -/
theorem readAll?_point
    (signed :
      splitSign characters = (negative, digits ++ '.' :: (fraction ++ rest)))
    (areDigits : ∀ character ∈ digits, Text.isDigit character = true)
    (areFraction : ∀ character ∈ fraction, Text.isDigit character = true)
    (notEmpty : digits ++ fraction ≠ [])
    (ends : EndsDigits rest) :
    readAll? characters =
      (readExponent? rest).map fun exponent? =>
        ⟨negative, digits, some fraction, exponent?⟩ := by
  have pointEnds : EndsDigits ('.' :: (fraction ++ rest)) :=
    endsDigits_cons (by decide) _
  have hasDigits : (digits.isEmpty && fraction.isEmpty) = false := by
    simpa using notEmpty
  unfold readAll?
  simp only [signed, splitDigits_append areDigits pointEnds,
    splitDigits_append areFraction ends, hasDigits, Bool.false_eq_true,
    ↓reduceIte]

/-- Digits without a point after them are read as the whole of a numeral. -/
theorem readAll?_whole
    (signed : splitSign characters = (negative, digits ++ rest))
    (areDigits : ∀ character ∈ digits, Text.isDigit character = true)
    (notEmpty : digits ≠ [])
    (ends : EndsDigits rest)
    (noPoint : rest.head? ≠ some '.') :
    readAll? characters =
      (readExponent? rest).map fun exponent? =>
        ⟨negative, digits, none, exponent?⟩ := by
  have hasDigits : digits.isEmpty = false :=
    List.isEmpty_eq_false_iff.mpr notEmpty
  unfold readAll?
  simp only [signed, splitDigits_append areDigits ends]
  split
  case h_1 =>
    exact absurd rfl noPoint
  case h_2 =>
    simp only [hasDigits, Bool.false_eq_true, ↓reduceIte]

end Digits

/-- With and without a minus text is read as a numeral of one size. -/
def Spells
    (characters : List Char)
    (size : ℚ) :
    Prop :=
  ∃ numeral : Numeral,
    numeral.size = size ∧
      ∀ negative,
        readAll? ((if negative then ['-'] else []) ++ characters) =
          some { numeral with negative := negative }

end Numeral

namespace Binary64

open Numeral (readAll? readExponent? EndsDigits)

theorem isDigit_of_mem_toDigits
    {number : Nat} :
    ∀ character ∈ Nat.toDigits 10 number, character.isDigit = true :=
  fun _ member => Nat.isDigit_of_mem_toDigits (by decide) (by decide) member

/-- An exponent is written as a sign and the digits of its absolute value. -/
theorem exists_exponentText_eq_cons
    (exponent : ℤ) :
    ∃ digits,
      exponentText exponent = (if exponent < 0 then '-' else '+') :: digits ∧
        digits ≠ [] ∧
        (∀ character ∈ digits, character.isDigit = true) ∧
        Nat.ofDigitChars 10 digits 0 = exponent.natAbs := by
  refine ⟨_, rfl, ?_⟩
  by_cases short : (Nat.toDigits 10 exponent.natAbs).length < 2
  · simp only [short, ↓reduceIte]
    refine ⟨List.cons_ne_nil _ _, ?_, ?_⟩
    · exact List.forall_mem_cons.mpr ⟨rfl, isDigit_of_mem_toDigits⟩
    · rw [Nat.ofDigitChars_cons]
      exact Nat.ofDigitChars_ten_toDigits
  · simp only [short, ↓reduceIte]
    exact ⟨Nat.toDigits_ne_nil, isDigit_of_mem_toDigits,
      Nat.ofDigitChars_ten_toDigits⟩

/-- An exponent is read as the number that it was written for. -/
theorem exists_readExponent?_exponentText
    (exponent : ℤ) :
    ∃ negative digits,
      readExponent? ('e' :: exponentText exponent) =
          some (some (negative, digits)) ∧
        signed negative (Text.numberOfDigits digits) = exponent := by
  obtain ⟨digits, written, notEmpty, areDigits, denotes⟩ :=
    exists_exponentText_eq_cons exponent
  have allDigits : Numeral.splitDigits digits = (digits, []) := by
    have atEnd :=
      Numeral.splitDigits_append (Text.areDigits_of_areDigits areDigits)
        Numeral.endsDigits_nil
    rwa [List.append_nil] at atEnd
  refine ⟨decide (exponent < 0), digits, ?_, ?_⟩
  · rw [written]
    by_cases negative : exponent < 0
    · simp [readExponent?, Numeral.splitSign, negative, allDigits, notEmpty]
    · simp [readExponent?, Numeral.splitSign, negative, allDigits, notEmpty]
  · rw [Text.numberOfDigits_eq areDigits, denotes]
    unfold signed
    by_cases negative : exponent < 0
    · simp only [negative, decide_true, ↓reduceIte]
      omega
    · simp only [negative, decide_false, Bool.false_eq_true, ↓reduceIte]
      omega

namespace Decimal

/-- The number that a decimal stands for. -/
def value (decimal : Decimal) : ℚ :=
  Nat.ofDigitChars 10 decimal.digits 0 *
    10 ^ (decimal.point - decimal.digits.length)

theorem digits_ne_nil_of_value_pos
    {decimal : Decimal}
    (positive : 0 < decimal.value) :
    decimal.digits ≠ [] := by
  intro empty
  simp [value, empty] at positive

end Decimal

/-- Leaving the zeros at the end of a grid point out does not change its value. -/
theorem value_trimmed
    (number : Nat)
    (exponent : ℤ) :
    (trimmed number exponent).value = number * 10 ^ exponent := by
  have digits : Nat.ofDigitChars 10 (Nat.toDigits 10 number) 0 = number :=
    Nat.ofDigitChars_ten_toDigits
  unfold trimmed Decimal.value
  dsimp only
  generalize Nat.toDigits 10 number = characters at *
  obtain ⟨kept, zeros, shape, keptEq⟩ :
      ∃ kept zeros,
        characters = kept ++ List.replicate zeros '0' ∧
          (characters.reverse.dropWhile (· == '0')).reverse = kept := by
    refine ⟨_, (characters.reverse.takeWhile (· == '0')).length, ?_, rfl⟩
    have zeros :
        characters.reverse.takeWhile (· == '0') =
          List.replicate (characters.reverse.takeWhile (· == '0')).length '0' := by
      apply List.eq_replicate_of_mem
      intro character member
      simpa using List.mem_takeWhile_imp member
    rw [← List.reverse_replicate, ← zeros, ← List.reverse_append,
      List.takeWhile_append_dropWhile, List.reverse_reverse]
  rw [keptEq, shape]
  rw [shape, Nat.ofDigitChars_append, Nat.ofDigitChars_replicate_zero] at digits
  rw [← digits, List.length_append, List.length_replicate]
  have place :
      ((kept.length + zeros : Nat) : ℤ) + exponent - kept.length =
        zeros + exponent := by
    push_cast
    ring
  rw [place, zpow_add₀ (by norm_num), zpow_natCast]
  push_cast
  ring

/-- The first digit, the other ones after a point, and an exponent. -/
theorem spells_scientific
    {digit : Char}
    {rest : List Char}
    (areDigits : ∀ character ∈ digit :: rest, character.isDigit = true)
    (exponent : ℤ) :
    Numeral.Spells
      ((match digit :: rest with
          | [] => []
          | [digit] => [digit]
          | digit :: rest => digit :: '.' :: rest) ++
        'e' :: exponentText exponent)
      (Nat.ofDigitChars 10 (digit :: rest) 0 *
        10 ^ (exponent - rest.length)) := by
  obtain ⟨exponentNegative, digits, exponentRead, denotes⟩ :=
    exists_readExponent?_exponentText exponent
  obtain ⟨first, others⟩ := List.forall_mem_cons.mp areDigits
  have firstDigit : ∀ character ∈ [digit], character.isDigit = true :=
    List.forall_mem_singleton.mpr first
  have inAnyScript := Text.areDigits_of_areDigits firstDigit
  have markEnds : EndsDigits ('e' :: exponentText exponent) :=
    Numeral.endsDigits_cons (by decide) _
  cases rest with
  | nil =>
      refine ⟨⟨false, [digit], none, some (exponentNegative, digits)⟩, ?_, ?_⟩
      · simp [Numeral.size, Numeral.scale, denotes,
          Text.numberOfDigits_eq firstDigit]
      · intro negative
        have isRead :=
          Numeral.readAll?_whole
            (Numeral.splitSign_append inAnyScript (List.cons_ne_nil digit [])
              negative)
            inAnyScript (List.cons_ne_nil digit []) markEnds (by simp)
        rw [exponentRead] at isRead
        exact isRead
  | cons next rest =>
      refine ⟨⟨false, [digit], some (next :: rest),
        some (exponentNegative, digits)⟩, ?_, ?_⟩
      · simp [Numeral.size, Numeral.scale, denotes,
          Text.numberOfDigits_eq areDigits]
      · intro negative
        have isRead :=
          Numeral.readAll?_point
            (Numeral.splitSign_append inAnyScript (List.cons_ne_nil digit [])
              negative)
            inAnyScript (Text.areDigits_of_areDigits others)
            (List.cons_ne_nil digit _) markEnds
        rw [exponentRead] at isRead
        exact isRead

/-- Digits around a point are read as a numeral that counts the digits after it. -/
theorem spells_positional
    {digits fraction : List Char}
    (areDigits : ∀ character ∈ digits, character.isDigit = true)
    (notEmpty : digits ≠ [])
    (areFraction : ∀ character ∈ fraction, character.isDigit = true) :
    Numeral.Spells (digits ++ '.' :: fraction)
      (Nat.ofDigitChars 10 (digits ++ fraction) 0 *
        10 ^ (-(fraction.length : ℤ))) := by
  refine ⟨⟨false, digits, some fraction, none⟩, ?_, ?_⟩
  · have all :
        ∀ character ∈ digits ++ fraction, character.isDigit = true :=
      List.forall_mem_append.mpr ⟨areDigits, areFraction⟩
    simp [Numeral.size, Numeral.scale, Text.numberOfDigits_eq all]
  · intro negative
    have inAnyScript := Text.areDigits_of_areDigits areDigits
    have isRead :=
      Numeral.readAll?_point
        (Numeral.splitSign_append inAnyScript notEmpty negative)
        inAnyScript (Text.areDigits_of_areDigits areFraction)
        (List.append_ne_nil_of_left_ne_nil notEmpty fraction)
        Numeral.endsDigits_nil
    rw [List.append_nil] at isRead
    exact isRead

theorem isDigit_of_mem_zeros
    (count : Nat) :
    ∀ character ∈ List.replicate count '0', character.isDigit = true := by
  intro character member
  rw [List.eq_of_mem_replicate member]
  rfl

/-- However a decimal is laid out, it is read as a numeral of the same size. -/
theorem spells_layOut
    {decimal : Decimal}
    (hasDigits : decimal.HasDigits)
    (notEmpty : decimal.digits ≠ []) :
    Numeral.Spells (layOut decimal) decimal.value := by
  obtain ⟨digits, point⟩ := decimal
  unfold Decimal.value
  unfold Decimal.HasDigits at hasDigits
  unfold layOut
  dsimp only at hasDigits notEmpty ⊢
  split
  case isTrue =>
    obtain ⟨digit, rest, rfl⟩ := List.exists_cons_of_ne_nil notEmpty
    have place :
        point - ((digit :: rest).length : ℤ) = point - 1 - rest.length := by
      rw [List.length_cons]
      push_cast
      ring
    rw [place]
    exact spells_scientific hasDigits (point - 1)
  case isFalse =>
    split
    case isTrue small =>
      have spelled :=
        spells_positional (isDigit_of_mem_zeros 1) (List.cons_ne_nil '0' [])
          (List.forall_mem_append.mpr
            ⟨isDigit_of_mem_zeros (-point).toNat, hasDigits⟩)
      have place :
          -((List.replicate (-point).toNat '0' ++ digits).length : ℤ) =
            point - digits.length := by
        rw [List.length_append, List.length_replicate]
        omega
      have value :
          Nat.ofDigitChars 10
              (List.replicate 1 '0' ++
                (List.replicate (-point).toNat '0' ++ digits)) 0 =
            Nat.ofDigitChars 10 digits 0 := by
        simp only [Nat.ofDigitChars_append, Nat.ofDigitChars_replicate_zero,
          Nat.mul_zero]
      rw [place, value] at spelled
      exact spelled
    case isFalse notSmall =>
      split
      case isTrue whole =>
        obtain ⟨zeros, place⟩ :=
          Int.eq_ofNat_of_zero_le (Int.sub_nonneg.mpr whole)
        have spelled :=
          spells_positional
            (List.forall_mem_append.mpr
              ⟨hasDigits, isDigit_of_mem_zeros zeros⟩)
            (List.append_ne_nil_of_left_ne_nil notEmpty _)
            (isDigit_of_mem_zeros 1)
        have value :
            (Nat.ofDigitChars 10
                  (digits ++ List.replicate zeros '0' ++ List.replicate 1 '0')
                  0 *
                10 ^ (-((List.replicate 1 '0').length : ℤ)) : ℚ) =
              Nat.ofDigitChars 10 digits 0 * 10 ^ (zeros : ℤ) := by
          rw [Nat.ofDigitChars_append, Nat.ofDigitChars_append,
            Nat.ofDigitChars_replicate_zero, Nat.ofDigitChars_replicate_zero,
            List.length_replicate]
          push_cast
          rw [zpow_neg, zpow_one, zpow_natCast]
          field_simp
        rw [value] at spelled
        rw [place, Int.toNat_natCast, List.append_assoc]
        rw [List.append_assoc] at spelled
        exact spelled
      case isFalse notWhole =>
        have someWhole : digits.take point.toNat ≠ [] := by
          intro empty
          have length := congrArg List.length empty
          rw [List.length_take, List.length_nil] at length
          omega
        have areFraction :
            ∀ character ∈ digits.drop point.toNat, character.isDigit = true :=
          fun character member =>
            hasDigits character (List.mem_of_mem_drop member)
        have spelled :=
          spells_positional
            (fun character member =>
              hasDigits character (List.mem_of_mem_take member))
            someWhole areFraction
        have place :
            -((digits.drop point.toNat).length : ℤ) =
              point - digits.length := by
          rw [List.length_drop]
          omega
        rw [List.take_append_drop, place] at spelled
        exact spelled

/-- The search for the shortest decimal ends with one that rounds to the magnitude. -/
theorem roundsTo_shortestFrom
    {magnitude attempts count : Nat}
    {point : ℤ}
    {decimal : Decimal}
    (found : shortestFrom magnitude point attempts count = some decimal) :
    RoundsTo magnitude (decimal.value * unitsInOne) := by
  induction attempts generalizing count with
  | zero =>
      have nothing : shortestFrom magnitude point 0 count = none := rfl
      rw [nothing] at found
      contradiction
  | succ attempts inductionHypothesis =>
      rw [shortestFrom_succ] at found
      generalize candidate : List.find? _ _ = candidate? at found
      cases candidate? with
      | some number =>
          cases found
          have reads := List.find?_some candidate
          rw [value_trimmed, ← readsBack_iff]
          exact reads
      | none =>
          exact inductionHypothesis found

/-- Once the grid is fine enough the search succeeds. -/
theorem isSome_shortestFrom
    {magnitude attempts count : Nat}
    {point : ℤ}
    (reaches :
      ∃ steps < attempts,
        ∃ number ∈ neighbours magnitude (point - (count + steps : Nat)),
          readsBack magnitude number (point - (count + steps : Nat)) = true) :
    (shortestFrom magnitude point attempts count).isSome := by
  induction attempts generalizing count with
  | zero =>
      obtain ⟨steps, inReach, -⟩ := reaches
      contradiction
  | succ attempts inductionHypothesis =>
      rw [shortestFrom_succ]
      cases candidate :
          (neighbours magnitude (point - count)).find?
            (readsBack magnitude · (point - count)) with
      | some number =>
          rfl
      | none =>
          apply inductionHypothesis
          obtain ⟨steps, inReach, number, member, reads⟩ := reaches
          cases steps with
          | zero =>
              rw [List.find?_eq_none] at candidate
              exact absurd reads (candidate number member)
          | succ steps =>
              refine ⟨steps, Nat.lt_of_succ_lt_succ inReach, number, ?_⟩
              rw [Nat.add_right_comm, ← Nat.add_assoc] at *
              exact ⟨member, reads⟩

/-- The shortest decimal of a positive magnitude rounds to it. -/
theorem roundsTo_shortest
    {magnitude : Nat}
    (positive : 0 < magnitude) :
    RoundsTo magnitude ((shortest magnitude).value * unitsInOne) := by
  have found :
      (shortestFrom magnitude (decimalPoint (unitsOf magnitude)) 17 1).isSome :=
    isSome_shortestFrom
      ⟨16, by decide, exists_readsBack_neighbours positive⟩
  obtain ⟨decimal, candidate⟩ := Option.isSome_iff_exists.mp found
  unfold shortest
  rw [candidate]
  exact roundsTo_shortestFrom candidate

/-- The text of a magnitude spells a number that rounds to the magnitude. -/
theorem exists_spells_magnitudeText
    (magnitude : Nat) :
    ∃ size,
      Numeral.Spells (magnitudeText magnitude) size ∧
        RoundsTo magnitude (size * unitsInOne) := by
  unfold magnitudeText
  split
  case isTrue zero =>
    refine ⟨_, spells_positional (isDigit_of_mem_zeros 1) (List.cons_ne_nil '0' [])
      (isDigit_of_mem_zeros 1), ?_⟩
    have noDigits :
        Nat.ofDigitChars 10 (List.replicate 1 '0' ++ ['0']) 0 = 0 := by
      decide
    rw [noDigits, zero, Nat.cast_zero, zero_mul, zero_mul]
    exact roundsTo_zero
  case isFalse notZero =>
    have positive : 0 < magnitude := Nat.pos_of_ne_zero notZero
    have rounds := roundsTo_shortest positive
    have valuePositive : 0 < (shortest magnitude).value :=
      pos_of_mul_pos_left (rounds.pos positive) (Nat.cast_nonneg _)
    exact ⟨_, spells_layOut (hasDigits_shortest magnitude)
      (Decimal.digits_ne_nil_of_value_pos valuePositive), rounds⟩

/--
The text of a finite double is a numeral with its sign, and the number that the
numeral stands for rounds to the double.
-/
theorem exists_readAll?_text
    (negative : Bool)
    (magnitude : Fin magnitudeCount) :
    ∃ numeral,
      readAll? (finite negative magnitude).text.toList = some numeral ∧
        numeral.negative = negative ∧
        RoundsTo magnitude (numeral.size * unitsInOne) := by
  obtain ⟨size, ⟨numeral, rfl, isRead⟩, rounds⟩ :=
    exists_spells_magnitudeText magnitude
  rw [toList_text_finite]
  exact ⟨{ numeral with negative := negative }, isRead negative, rfl, rounds⟩

/-- The text of a double tells which double it is. -/
theorem text_injective :
    Function.Injective text := by
  intro left right same
  have sameKind := isFinite_eq_of_text_eq same
  cases left with
  | finite negative magnitude =>
      cases right with
      | finite otherNegative otherMagnitude =>
          obtain ⟨numeral, isRead, sign, rounds⟩ :=
            exists_readAll?_text negative magnitude
          obtain ⟨other, otherRead, otherSign, otherRounds⟩ :=
            exists_readAll?_text otherNegative otherMagnitude
          -- Both doubles are what the one numeral rounds to.
          rw [same, otherRead] at isRead
          cases isRead
          have sameMagnitude : magnitude = otherMagnitude :=
            Fin.ext (rounds.unique otherRounds)
          rw [← sign, ← otherSign, sameMagnitude]
      | nan =>
          contradiction
      | infinite otherNegative =>
          contradiction
  | nan =>
      exact eq_of_text_eq rfl sameKind.symm same
  | infinite negative =>
      exact eq_of_text_eq rfl sameKind.symm same

end Binary64

end FleetConfig
