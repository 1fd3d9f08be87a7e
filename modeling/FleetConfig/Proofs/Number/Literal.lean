import FleetConfig.Proofs.Number.IntegerText
import FleetConfig.Proofs.Number.Nearest
import FleetConfig.Value.Comparison

/-!
# Integer literals

An integer literal holds digits of any script after an optional sign, between
blanks.  It is read as the integer that it denotes, as long as it does not have too
many digits; a longer one is read as the double nearest to that integer.
-/

namespace FleetConfig

/-- The text of an integer. -/
structure IntegerLiteral where
  before : List Char
  minus? : Option Bool
  digits : List Char
  after : List Char
  blankBefore : Text.AreBlank before
  notEmpty : digits ≠ []
  areDigits : ∀ character ∈ digits, Text.isDigit character = true
  blankAfter : Text.AreBlank after

namespace IntegerLiteral

/-- The sign as it is written, if it is written. -/
def sign : Option Bool → List Char
  | none =>
      []
  | some false =>
      ['+']
  | some true =>
      ['-']

variable (literal : IntegerLiteral)

/-- Whether the sign is a minus. -/
def negative : Bool :=
  literal.minus?.getD false

/-- The number that the digits denote, the sign apart. -/
def size : Nat :=
  Text.numberOfDigits literal.digits

/-- The integer that a literal denotes. -/
def value : Int :=
  Binary64.signed literal.negative literal.size

/-- A literal as text. -/
def text : String :=
  String.ofList
    (literal.before ++ (sign literal.minus? ++ literal.digits) ++ literal.after)

theorem forall_mem_sign
    {holds : Char → Prop}
    (plus : holds '+')
    (minus : holds '-')
    (minus? : Option Bool) :
    ∀ character ∈ sign minus?, holds character := by
  match minus? with
  | none =>
      exact nofun
  | some false =>
      exact List.forall_mem_singleton.mpr plus
  | some true =>
      exact List.forall_mem_singleton.mpr minus

theorem isBlank_of_mem :
    ∀ character ∈ sign literal.minus? ++ literal.digits,
      Text.isBlank character = false :=
  List.forall_mem_append.mpr
    ⟨forall_mem_sign (by decide) (by decide) literal.minus?,
      fun character member =>
        Text.isBlank_of_isFigure
          (Text.isFigure_of_isDigit (literal.areDigits character member))⟩

/-- A sign is taken off the front of text that begins with none itself. -/
theorem splitSign_sign_append
    (minus? : Option Bool)
    {rest : List Char}
    (noSign : ∀ character ∈ rest.head?, character ≠ '+' ∧ character ≠ '-') :
    Numeral.splitSign (sign minus? ++ rest) = (minus?.getD false, rest) := by
  match minus? with
  | none =>
      exact Numeral.splitSign_of_ne noSign
  | some false =>
      rfl
  | some true =>
      rfl

theorem splitSign_sign :
    Numeral.splitSign (sign literal.minus? ++ literal.digits) =
      (literal.negative, literal.digits) :=
  splitSign_sign_append literal.minus? fun character first =>
    Numeral.ne_sign_of_isDigit
      (literal.areDigits character (List.mem_of_mem_head? first))

/-- A literal is read as a numeral with its sign and its digits. -/
theorem read?_text :
    Numeral.read? literal.text =
      some ⟨literal.negative, literal.digits, none, none⟩ := by
  have allDigits :
      Numeral.splitDigits literal.digits = (literal.digits, []) := by
    unfold Numeral.splitDigits
    rw [List.takeWhile_eq_self_iff.mpr literal.areDigits,
      List.dropWhile_eq_nil_iff.mpr literal.areDigits]
  have hasDigits : literal.digits.isEmpty = false :=
    List.isEmpty_eq_false_iff.mpr literal.notEmpty
  have stripped :
      Text.stripBlanks literal.text.toList =
        sign literal.minus? ++ literal.digits := by
    unfold text
    rw [String.toList_ofList]
    exact Text.stripBlanks_append literal.blankBefore literal.isBlank_of_mem
      (List.append_ne_nil_of_right_ne_nil _ literal.notEmpty)
      literal.blankAfter
  unfold Numeral.read? Numeral.readAll?
  rw [stripped, splitSign_sign]
  dsimp only
  rw [allDigits]
  dsimp only
  rw [hasDigits]
  rfl

/-- A literal denotes its integer, or the nearest double if it has too many digits. -/
theorem number?_text :
    (Scalar.text literal.text).number? =
      some
        (if literal.digits.length ≤ integerDigitLimit then
          .integer literal.value
        else
          .double (Binary64.ofDecimal literal.negative literal.size 0)) := by
  unfold Scalar.number?
  dsimp only
  rw [read?_text, Option.map_some, Numeral.toNumber]
  by_cases short : literal.digits.length ≤ integerDigitLimit
  · simp [short, Numeral.isWhole, value, size]
  · simp [short, Numeral.isWhole, Numeral.toBinary64, Numeral.scale, size]

/-- Every integer is written as a literal. -/
theorem exists_text_eq_toString
    (value : Int) :
    ∃ literal : IntegerLiteral, literal.text = toString value := by
  have areDigits :
      ∀ number : Nat,
        ∀ character ∈ Nat.toDigits 10 number, Text.isDigit character = true :=
    fun number character member =>
      Text.isDigit_of_isDigit (Binary64.isDigit_of_mem_toDigits character member)
  rw [Int.toString_eq_repr, Int.repr_eq_if]
  split
  case isTrue =>
    refine ⟨⟨[], none, _, [], nofun, Nat.toDigits_ne_nil,
      areDigits value.toNat, nofun⟩, ?_⟩
    rw [← String.toList_inj, Nat.toList_repr]
    simp [text, sign]
  case isFalse =>
    refine ⟨⟨[], some true, _, [], nofun, Nat.toDigits_ne_nil,
      areDigits (-value).toNat, nofun⟩, ?_⟩
    rw [← String.toList_inj, String.toList_append, Nat.toList_repr]
    simp [text, sign]

end IntegerLiteral

end FleetConfig
