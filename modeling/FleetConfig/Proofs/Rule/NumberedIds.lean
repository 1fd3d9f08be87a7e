import FleetConfig.Proofs.Document.JsonString
import FleetConfig.Proofs.Supply
import Mathlib

/-!
# Identifiers that stand for numbers

The digits of a number can be told from the identifier that stands for it.  So
numbers have the same identifier exactly if they agree in 128 bits, and whatever
numbers two supplies start with, they repeat an identifier in the same turns.
-/

namespace FleetConfig

namespace Text

theorem ne_hyphen_of_mem_hexDigits
    {width number : Nat}
    {character : Char}
    (member : character ∈ Text.hexDigits width number) :
    character ≠ '-' := by
  have noHyphen : ∀ digit : Fin 16, Text.hexDigit digit ≠ '-' := by
    decide
  induction width generalizing number with
  | zero =>
      contradiction
  | succ width inductionHypothesis =>
      rw [Text.hexDigits, List.mem_append, List.mem_singleton] at member
      rcases member with earlier | isLast
      · exact inductionHypothesis earlier
      · rw [isLast]
        exact noHyphen ⟨number % 16, Nat.mod_lt number (by decide)⟩

theorem length_hexDigits
    (width number : Nat) :
    (Text.hexDigits width number).length = width := by
  induction width generalizing number with
  | zero =>
      rfl
  | succ width inductionHypothesis =>
      rw [Text.hexDigits, List.length_append, inductionHypothesis]
      rfl

/-- The last digits of a number are told by the remainder. -/
theorem hexDigits_congr
    {width number other : Nat}
    (same : number % Nat.pow 16 width = other % Nat.pow 16 width) :
    hexDigits width number = hexDigits width other := by
  induction width generalizing number other with
  | zero =>
      rfl
  | succ width inductionHypothesis =>
      have power : Nat.pow 16 (width + 1) = 16 * Nat.pow 16 width :=
        Nat.pow_succ'
      rw [power] at same
      have last : number % 16 = other % 16 := by
        rw [← Nat.mod_mul_right_mod number 16, same, Nat.mod_mul_right_mod]
      have others :
          number / 16 % Nat.pow 16 width = other / 16 % Nat.pow 16 width := by
        rw [← Nat.mod_mul_right_div_self, same, Nat.mod_mul_right_div_self]
      rw [hexDigits, hexDigits, inductionHypothesis others, last]

end Text

namespace IdSupply

/-- Without its hyphens a numbered identifier is the digits of its number. -/
theorem filter_numberedId
    (number : Nat) :
    (numberedId number).toList.filter (· != '-') = Text.hexDigits 32 number := by
  have length := Text.length_hexDigits 32 number
  have noHyphen :
      ∀ character ∈ Text.hexDigits 32 number, (character != '-') = true :=
    fun character member =>
      bne_iff_ne.mpr (Text.ne_hyphen_of_mem_hexDigits member)
  unfold numberedId
  dsimp only
  generalize Text.hexDigits 32 number = digits at *
  have kept :
      ∀ start count,
        ((digits.drop start).take count).filter (· != '-') =
          (digits.drop start).take count := by
    intro start count
    refine List.filter_eq_self.mpr fun character member => ?_
    exact noHyphen character
      (List.mem_of_mem_drop (List.mem_of_mem_take member))
  have rejoined :
      ∀ start count,
        (digits.drop start).take count ++ digits.drop (start + count) =
          digits.drop start := by
    intro start count
    rw [← List.drop_drop, List.take_append_drop]
  have atEnd : (digits.drop 20).take 12 = digits.drop 20 :=
    List.take_of_length_le (by rw [List.length_drop, length])
  have first := kept 0 8
  rw [List.drop_zero] at first
  rw [String.toList_intercalate]
  simp only [List.map_cons, List.map_nil, String.toList_ofList, String.reduceToList,
    List.intercalate, List.drop_zero, List.intersperse_cons_cons,
    List.intersperse_singleton, List.flatten_cons, List.flatten_nil, List.append_nil,
    List.cons_append, List.nil_append, List.filter_append, bne_self_eq_false,
    Bool.false_eq_true, not_false_eq_true, List.filter_cons_of_neg, first, kept]
  rw [atEnd, rejoined 16 4, rejoined 12 4, rejoined 8 4,
    List.take_append_drop]

/-- Numbers with the same identifier agree in 128 bits. -/
theorem mod_eq_of_numberedId_eq
    {number other : Nat}
    (same : numberedId number = numberedId other) :
    number % Nat.pow 16 32 = other % Nat.pow 16 32 := by
  have digits : Text.hexDigits 32 number = Text.hexDigits 32 other := by
    rw [← filter_numberedId, ← filter_numberedId, same]
  have denoted := Text.numberOfHex?_hexDigits 32 number
  rw [digits, Text.numberOfHex?_hexDigits, Option.some.injEq] at denoted
  exact denoted.symm

/-- Numbers have the same identifier exactly if they agree in 128 bits. -/
theorem numberedId_eq_iff
    {number other : Nat} :
    numberedId number = numberedId other ↔
      number ≡ other [MOD Nat.pow 16 32] := by
  refine ⟨mod_eq_of_numberedId_eq, fun same => ?_⟩
  unfold numberedId
  rw [Text.hexDigits_congr same]

/-- Whatever numbers they start with, supplies repeat an identifier in the same turns. -/
theorem repeatsLike_numbered
    (number other taken : Nat) :
    (numbered number).RepeatsLike (numbered other) taken := by
  intro turn _ later _
  change
    numberedId (number + turn) = numberedId (number + later) ↔
      numberedId (other + turn) = numberedId (other + later)
  simp only [numberedId_eq_iff]
  exact
    ⟨fun same => (Nat.ModEq.add_left_cancel' number same).add_left other,
      fun same => (Nat.ModEq.add_left_cancel' other same).add_left number⟩

end IdSupply

end FleetConfig
