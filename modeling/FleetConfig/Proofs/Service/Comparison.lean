import FleetConfig.Proofs.Service.Verdict
import FleetConfig.Proofs.Value.Comparison

/-!
# Rules that compare numbers

A rule that asks for equality and a rule that compares with a bound both place their
numbers on the number line, so that equality and the four orders fit together as in a
linear order.  Integers are placed exactly, at any size, and so are their literals up
to the largest number of digits; a longer literal is placed at the nearest double.
-/

namespace FleetConfig

/-- What a rule can compare two numbers by: equality and the four orders. -/
inductive Comparison where
  | equal
  | ordered (order : Order)

namespace Comparison

/-- The condition that compares a fact with what is expected. -/
def condition
    (comparison : Comparison)
    (expected : Scalar) :
    Condition :=
  match comparison with
  | .equal =>
      .equality false expected
  | .ordered order =>
      .ordering order expected

/-- The relation that a comparison stands for. -/
def Relates
    {α : Type}
    [LinearOrder α]
    (comparison : Comparison)
    (left right : α) :
    Prop :=
  match comparison with
  | .equal =>
      left = right
  | .ordered .greater =>
      left > right
  | .ordered .greaterOrEqual =>
      left ≥ right
  | .ordered .less =>
      left < right
  | .ordered .lessOrEqual =>
      left ≤ right

instance
    {α : Type}
    [LinearOrder α]
    (comparison : Comparison)
    (left right : α) :
    Decidable (comparison.Relates left right) :=
  match comparison with
  | .equal =>
      inferInstanceAs (Decidable (left = right))
  | .ordered .greater =>
      inferInstanceAs (Decidable (left > right))
  | .ordered .greaterOrEqual =>
      inferInstanceAs (Decidable (left ≥ right))
  | .ordered .less =>
      inferInstanceAs (Decidable (left < right))
  | .ordered .lessOrEqual =>
      inferInstanceAs (Decidable (left ≤ right))

/-- What keeps the order keeps what comparisons say. -/
theorem relates_iff_of_strictMono
    {α β : Type}
    [LinearOrder α]
    [LinearOrder β]
    {place : α → β}
    (mono : StrictMono place)
    (comparison : Comparison)
    (left right : α) :
    comparison.Relates (place left) (place right) ↔
      comparison.Relates left right := by
  match comparison with
  | .equal =>
      exact mono.injective.eq_iff
  | .ordered .greater =>
      exact mono.lt_iff_lt
  | .ordered .greaterOrEqual =>
      exact mono.le_iff_le
  | .ordered .less =>
      exact mono.lt_iff_lt
  | .ordered .lessOrEqual =>
      exact mono.le_iff_le

end Comparison

/-- The number that a scalar denotes lies at a position of the number line. -/
def Scalar.StandsAt
    (scalar : Scalar)
    (position : Number.Position) :
    Prop :=
  ∃ number, scalar.number? = some number ∧ number.position? = some position

/-- A scalar denotes a number other than not-a-number. -/
def Scalar.IsNumber (scalar : Scalar) : Prop :=
  ∃ number, scalar.number? = some number ∧ number ≠ .double .nan

theorem Scalar.IsNumber.exists_standsAt
    {scalar : Scalar}
    (isNumber : scalar.IsNumber) :
    ∃ position, scalar.StandsAt position := by
  obtain ⟨number, denotes, notNan⟩ := isNumber
  obtain ⟨position, isPosition⟩ := Number.exists_position notNan
  exact ⟨position, number, denotes, isPosition⟩

namespace Comparison

/-- Rules with a comparison match one scalar when they expect another one. -/
def Holds
    (comparison : Comparison)
    (fact expected : Scalar) :
    Prop :=
  (comparison.condition expected).Matches (.scalar fact)

/-- Rules with a comparison do not match one scalar when they expect another one. -/
def Fails
    (comparison : Comparison)
    (fact expected : Scalar) :
    Prop :=
  (comparison.condition expected).Misses (.scalar fact)

/--
The comparisons of three scalars fit together: each holds or fails without a problem,
exactly one of greater, equal and less holds, and greater or equal is a total preorder
with greater as its strict part.
-/
structure Coheres (first second third : Scalar) : Prop where
  settled :
    ∀ comparison : Comparison,
      comparison.Holds first second ∨ comparison.Fails first second
  exactlyOne :
    ∃! comparison : Comparison,
      comparison ∈ [.ordered .greater, .equal, .ordered .less] ∧
        comparison.Holds first second
  greaterOrEqual :
    (ordered .greaterOrEqual).Holds first second ↔
      (ordered .greater).Holds first second ∨ equal.Holds first second
  lessOrEqual :
    (ordered .lessOrEqual).Holds first second ↔
      (ordered .less).Holds first second ∨ equal.Holds first second
  turned :
    (ordered .greater).Holds first second ↔
      (ordered .less).Holds second first
  transitive :
    (ordered .greaterOrEqual).Holds first second →
    (ordered .greaterOrEqual).Holds second third →
    (ordered .greaterOrEqual).Holds first third
  strict :
    (ordered .greaterOrEqual).Holds first second →
    (ordered .greaterOrEqual).Holds second third →
    (ordered .greater).Holds first second ∨ (ordered .greater).Holds second third →
    (ordered .greater).Holds first third

section Ranks

variable {fact expected : Scalar} {factAt expectedAt : Number.Position}

/-- Rules compare numbers by their positions. -/
theorem decides_ranks
    (factStands : fact.StandsAt factAt)
    (expectedStands : expected.StandsAt expectedAt)
    (comparison : Comparison) :
    (comparison.condition expected).Decides (some (.scalar fact))
      (comparison.Relates factAt.rank expectedAt.rank) := by
  obtain ⟨actual, isActual, actualAt⟩ := factStands
  obtain ⟨bound, isBound, boundAt⟩ := expectedStands
  have isFact : (Value.scalar fact).number? = some actual := isActual
  have decided :
      ∀ order : Order,
        (Condition.ordering order expected).Decides (some (.scalar fact))
          (order.holds actual bound = true) :=
    fun _ => Condition.decides_ordering isFact isBound
  match comparison with
  | .equal =>
      refine (Condition.decides_equality false expected (.scalar fact)).congr ?_
      rw [opposite, Value.alike, Scalar.alike_of_number isActual isBound]
      exact (Number.equal_iff actualAt boundAt).trans
        Number.Position.rank_injective.eq_iff.symm
  | .ordered .greater =>
      exact (decided .greater).congr (Number.less_iff boundAt actualAt)
  | .ordered .greaterOrEqual =>
      exact (decided .greaterOrEqual).congr (Number.lessOrEqual_iff boundAt actualAt)
  | .ordered .less =>
      exact (decided .less).congr (Number.less_iff actualAt boundAt)
  | .ordered .lessOrEqual =>
      exact (decided .lessOrEqual).congr (Number.lessOrEqual_iff actualAt boundAt)

theorem holds_iff
    (factStands : fact.StandsAt factAt)
    (expectedStands : expected.StandsAt expectedAt)
    {comparison : Comparison} :
    comparison.Holds fact expected ↔
      comparison.Relates factAt.rank expectedAt.rank :=
  (decides_ranks factStands expectedStands comparison).matches_iff

theorem fails_iff
    (factStands : fact.StandsAt factAt)
    (expectedStands : expected.StandsAt expectedAt)
    {comparison : Comparison} :
    comparison.Fails fact expected ↔
      ¬ comparison.Relates factAt.rank expectedAt.rank :=
  (decides_ranks factStands expectedStands comparison).misses_iff

end Ranks

/-- Exactly one of greater, equal and less relates what is linearly ordered. -/
theorem existsUnique_relates
    {α : Type}
    [LinearOrder α]
    (left right : α) :
    ∃! comparison : Comparison,
      comparison ∈ [.ordered .greater, .equal, .ordered .less] ∧
        comparison.Relates left right := by
  have listed :
      ∀ comparison : Comparison,
        comparison ∈ [.ordered .greater, .equal, .ordered .less] ↔
          comparison = .ordered .greater ∨
            comparison = .equal ∨ comparison = .ordered .less := by
    simp
  simp only [listed]
  rcases lt_trichotomy left right with below | same | above
  · refine ⟨.ordered .less, ⟨.inr (.inr rfl), below⟩, ?_⟩
    rintro other ⟨rfl | rfl | rfl, related⟩
    · exact absurd related below.asymm
    · exact absurd related below.ne
    · rfl
  · refine ⟨.equal, ⟨.inr (.inl rfl), same⟩, ?_⟩
    rintro other ⟨rfl | rfl | rfl, related⟩
    · exact absurd same related.ne'
    · rfl
    · exact absurd same related.ne
  · refine ⟨.ordered .greater, ⟨.inl rfl, above⟩, ?_⟩
    rintro other ⟨rfl | rfl | rfl, related⟩
    · rfl
    · exact absurd related above.ne'
    · exact absurd related above.asymm

/-- Rules order the numbers of all kinds as a line, and equality fits that order. -/
theorem coheres_of_isNumber
    {first second third : Scalar}
    (firstNumber : first.IsNumber)
    (secondNumber : second.IsNumber)
    (thirdNumber : third.IsNumber) :
    Coheres first second third := by
  obtain ⟨firstAt, firstStands⟩ := firstNumber.exists_standsAt
  obtain ⟨secondAt, secondStands⟩ := secondNumber.exists_standsAt
  obtain ⟨thirdAt, thirdStands⟩ := thirdNumber.exists_standsAt
  constructor
  case settled =>
    intro comparison
    rw [holds_iff firstStands secondStands, fails_iff firstStands secondStands]
    exact Classical.em _
  all_goals
    simp only [holds_iff firstStands secondStands,
      holds_iff secondStands firstStands, holds_iff secondStands thirdStands,
      holds_iff firstStands thirdStands]
  case exactlyOne =>
    exact existsUnique_relates _ _
  case greaterOrEqual =>
    exact le_iff_lt_or_eq.trans (or_congr_right eq_comm)
  case lessOrEqual =>
    exact le_iff_lt_or_eq
  case turned =>
    exact Iff.rfl
  case transitive =>
    exact fun downToSecond downToThird => le_trans downToThird downToSecond
  case strict =>
    rintro downToSecond downToThird (below | below)
    · exact lt_of_le_of_lt downToThird below
    · exact lt_of_lt_of_le below downToSecond

/-- A literal, a double and an integer that lie next to each other fit together. -/
theorem coheres_of_isNumber_sample :
    (Scalar.text " +9007199254740993").IsNumber ∧
      (Scalar.double (.ofDecimal false 9007199254740992 0)).IsNumber ∧
      (Scalar.integer 9007199254740991).IsNumber ∧
      Coheres (.text " +9007199254740993")
        (.double (.ofDecimal false 9007199254740992 0))
        (.integer 9007199254740991) := by
  have literal : (Scalar.text " +9007199254740993").IsNumber :=
    ⟨.integer 9007199254740993, by decide +kernel, nofun⟩
  have double :
      (Scalar.double (.ofDecimal false 9007199254740992 0)).IsNumber :=
    ⟨_, rfl, by decide +kernel⟩
  have integer : (Scalar.integer 9007199254740991).IsNumber :=
    ⟨_, rfl, nofun⟩
  exact ⟨literal, double, integer, coheres_of_isNumber literal double integer⟩

end Comparison

/-- An integer as a rule may come across it: the integer itself or a literal of it. -/
inductive IntegerOperand where
  | integer (value : Int)
  | text (literal : IntegerLiteral)

namespace IntegerOperand

/-- The scalar that facts and rules hold. -/
def scalar : IntegerOperand → Scalar
  | .integer value =>
      .integer value
  | .text literal =>
      .text literal.text

/-- The integer that is meant. -/
def value : IntegerOperand → Int
  | .integer value =>
      value
  | .text literal =>
      literal.value

/-- An integer is taken as it is, unless it is a literal with too many digits. -/
def IsExact : IntegerOperand → Prop
  | .integer _ =>
      True
  | .text literal =>
      literal.digits.length ≤ integerDigitLimit

instance (operand : IntegerOperand) : Decidable operand.IsExact :=
  match operand with
  | .integer _ =>
      inferInstanceAs (Decidable True)
  | .text literal =>
      inferInstanceAs (Decidable (literal.digits.length ≤ integerDigitLimit))

/-- Where the double nearest to a literal stands. -/
def RoundsTo
    (operand : IntegerOperand)
    (position : Number.Position) :
    Prop :=
  ∃ literal double,
    operand = .text literal ∧
      double.IsNearest literal.negative (literal.size * Binary64.unitsInOne) ∧
      (Number.double double).position? = some position

/--
Where an integer is compared: at its own place, or, if it is a literal with too many
digits, at that of the nearest double.
-/
def ComparedAt
    (operand : IntegerOperand)
    (position : Number.Position) :
    Prop :=
  (operand.IsExact ∧
      position = .units (operand.value * Binary64.unitsInOne)) ∨
    (¬ operand.IsExact ∧ operand.RoundsTo position)

variable {operand : IntegerOperand}

theorem standsAt_of_isExact
    (exact : operand.IsExact) :
    operand.scalar.StandsAt (.units (operand.value * Binary64.unitsInOne)) := by
  cases operand with
  | integer value =>
      exact ⟨_, rfl, rfl⟩
  | text literal =>
      have denotes := literal.number?_text
      have short : literal.digits.length ≤ integerDigitLimit := exact
      rw [if_pos short] at denotes
      exact ⟨_, denotes, rfl⟩

theorem exists_roundsTo
    (inexact : ¬ operand.IsExact) :
    ∃ position, operand.RoundsTo position ∧ operand.scalar.StandsAt position := by
  cases operand with
  | integer value =>
      exact absurd trivial inexact
  | text literal =>
      have denotes := literal.number?_text
      have long : ¬ literal.digits.length ≤ integerDigitLimit := inexact
      rw [if_neg long] at denotes
      have nearest :=
        Binary64.isNearest_ofDecimal literal.negative literal.size 0
      rw [zpow_zero, mul_one] at nearest
      have notNan := mt Number.double.inj nearest.ne_nan
      obtain ⟨position, isPosition⟩ := Number.exists_position notNan
      exact ⟨position, ⟨literal, _, rfl, nearest, isPosition⟩,
        _, denotes, isPosition⟩

theorem exists_comparedAt
    (operand : IntegerOperand) :
    ∃ position, operand.ComparedAt position ∧ operand.scalar.StandsAt position := by
  by_cases exact : operand.IsExact
  · exact ⟨_, .inl ⟨exact, rfl⟩, standsAt_of_isExact exact⟩
  · obtain ⟨position, rounds, stands⟩ := exists_roundsTo exact
    exact ⟨position, .inr ⟨exact, rounds⟩, stands⟩

theorem ComparedAt.unique
    {position other : Number.Position}
    (compared : operand.ComparedAt position)
    (otherwise : operand.ComparedAt other) :
    position = other := by
  rcases compared with ⟨exact, rfl⟩ | ⟨inexact, rounds⟩
  · rcases otherwise with ⟨_, rfl⟩ | ⟨inexact, _⟩
    · rfl
    · contradiction
  · rcases otherwise with ⟨exact, _⟩ | ⟨_, otherRounds⟩
    · contradiction
    · obtain ⟨literal, double, rfl, nearest, isPosition⟩ := rounds
      obtain ⟨_, otherDouble, ⟨⟩, otherNearest, isOther⟩ := otherRounds
      rw [nearest.unique otherNearest, isOther] at isPosition
      exact (Option.some.inj isPosition).symm

end IntegerOperand

/--
Rules compare integers exactly, as long as no literal among them has too many digits;
and in any case each is compared at its own place or at that of the nearest double.
-/
theorem Comparison.decides_integers
    (fact expected : IntegerOperand) :
    (fact.IsExact →
      expected.IsExact →
      ∀ comparison : Comparison,
        (comparison.condition expected.scalar).Decides
          (some (.scalar fact.scalar))
          (comparison.Relates fact.value expected.value)) ∧
      ∃ factAt expectedAt,
        (∀ position, fact.ComparedAt position ↔ position = factAt) ∧
          (∀ position, expected.ComparedAt position ↔ position = expectedAt) ∧
          ∀ comparison : Comparison,
            (comparison.condition expected.scalar).Decides
              (some (.scalar fact.scalar))
              (comparison.Relates factAt.rank expectedAt.rank) := by
  constructor
  · intro factExact expectedExact comparison
    exact (decides_ranks (IntegerOperand.standsAt_of_isExact factExact)
      (IntegerOperand.standsAt_of_isExact expectedExact) comparison).congr
      (relates_iff_of_strictMono Number.Position.strictMono_rank_units
        comparison fact.value expected.value)
  · obtain ⟨factAt, factCompared, factStands⟩ := fact.exists_comparedAt
    obtain ⟨expectedAt, expectedCompared, expectedStands⟩ :=
      expected.exists_comparedAt
    refine ⟨factAt, expectedAt, fun position => ?_, fun position => ?_,
      decides_ranks factStands expectedStands⟩
    · exact ⟨fun compared => compared.unique factCompared,
        fun same => same ▸ factCompared⟩
    · exact ⟨fun compared => compared.unique expectedCompared,
        fun same => same ▸ expectedCompared⟩

namespace Sample

/-- A literal with a sign, between blanks. -/
def signedLiteral : IntegerLiteral where
  before := [' ']
  minus? := some false
  digits := "9007199254740993".toList
  after := ['\n']
  blankBefore := List.all_eq_true.mp rfl
  notEmpty := by decide
  areDigits := List.all_eq_true.mp rfl
  blankAfter := List.all_eq_true.mp rfl

end Sample

/-- A literal and the integer before it are told apart, which doubles would not do. -/
theorem Comparison.decides_integers_sample :
    (IntegerOperand.text Sample.signedLiteral).IsExact ∧
      (IntegerOperand.integer 9007199254740992).IsExact ∧
      (ordered .greater).Holds (.text " +9007199254740993\n")
        (.integer 9007199254740992) ∧
      equal.Fails (.text " +9007199254740993\n")
        (.integer 9007199254740992) := by
  have exact : (IntegerOperand.text Sample.signedLiteral).IsExact := by
    decide +kernel
  have decides :=
    (Comparison.decides_integers (.text Sample.signedLiteral)
      (.integer 9007199254740992)).1 exact trivial
  refine ⟨exact, trivial, ?_, ?_⟩
  · exact (decides _).matches_iff.mpr (by decide +kernel)
  · exact (decides _).misses_iff.mpr (by decide +kernel)

namespace Sample

theorem isDigit_of_mem_longDigits
    {first : Char}
    (isDigit : first.isDigit = true) :
    ∀ character ∈ first :: List.replicate integerDigitLimit '0',
      character.isDigit = true := by
  refine List.forall_mem_cons.mpr ⟨isDigit, fun character member => ?_⟩
  rw [List.eq_of_mem_replicate member]
  rfl

/-- A digit, and after it as many zeros as an integer may have digits. -/
def longLiteral
    (first : Char)
    (isDigit : first.isDigit = true) :
    IntegerLiteral where
  before := []
  minus? := none
  digits := first :: List.replicate integerDigitLimit '0'
  after := []
  blankBefore := nofun
  notEmpty := List.cons_ne_nil _ _
  areDigits := fun character member =>
    Text.isDigit_of_isDigit (isDigit_of_mem_longDigits isDigit character member)
  blankAfter := nofun

theorem size_longLiteral
    {first : Char}
    (isDigit : first.isDigit = true) :
    (longLiteral first isDigit).size =
      10 ^ integerDigitLimit * (first.toNat - '0'.toNat) := by
  have denotes := Text.numberOfDigits_eq (isDigit_of_mem_longDigits isDigit)
  rw [Nat.ofDigitChars_cons, Nat.ofDigitChars_replicate_zero, Nat.mul_zero,
    Nat.zero_add] at denotes
  exact denotes

/-- A long literal is read as an infinite double. -/
theorem number?_longLiteral
    {first : Char}
    (isDigit : first.isDigit = true)
    (positive : 0 < first.toNat - '0'.toNat) :
    (Scalar.text (longLiteral first isDigit).text).number? =
      some (.double (.infinite false)) := by
  have long :
      ¬ (longLiteral first isDigit).digits.length ≤ integerDigitLimit := by
    simp [longLiteral]
  have size := size_longLiteral isDigit
  have vast :
      Binary64.unitsOf magnitudeCount ≤
        (longLiteral first isDigit).size * Binary64.unitsInOne := by
    have large : 401 ≤ integerDigitLimit := by decide
    rw [size]
    exact (Binary64.unitsOf_magnitudeCount_le large).trans
      (Nat.mul_le_mul_right _ (Nat.le_mul_of_pos_right _ positive))
  have nearest :=
    Binary64.isNearest_ofDecimal (longLiteral first isDigit).negative
      (longLiteral first isDigit).size 0
  rw [zpow_zero, mul_one, ← Nat.cast_mul] at nearest
  rw [IntegerLiteral.number?_text, if_neg long,
    nearest.eq_infinite (Nat.cast_le.mpr vast)]
  rfl

end Sample

/-- Literals of different integers are equal if both are too long and too large. -/
theorem Comparison.equal_longLiterals :
    (Sample.longLiteral '1' rfl).value ≠ (Sample.longLiteral '2' rfl).value ∧
      equal.Holds (.text (Sample.longLiteral '1' rfl).text)
        (.text (Sample.longLiteral '2' rfl).text) := by
  constructor
  · intro same
    have sameSize :
        (Sample.longLiteral '1' rfl).size = (Sample.longLiteral '2' rfl).size :=
      Int.ofNat.inj same
    rw [Sample.size_longLiteral, Sample.size_longLiteral] at sameSize
    have positive : 0 < 10 ^ integerDigitLimit := Nat.pow_pos (by decide)
    exact absurd (Nat.eq_of_mul_eq_mul_left positive sameSize) (by decide)
  · have one :=
      Sample.number?_longLiteral (rfl : '1'.isDigit = true) (by decide)
    have two :=
      Sample.number?_longLiteral (rfl : '2'.isDigit = true) (by decide)
    exact (holds_iff ⟨_, one, rfl⟩ ⟨_, two, rfl⟩).mpr rfl

end FleetConfig
