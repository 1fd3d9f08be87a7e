import FleetConfig.Proofs.Number.Grammar
import FleetConfig.Text.Quoted

/-!
# Texts as numbers

A text that the grammar allows is read in steps: one that is written as an integer by
the reader of integers, and every other one, or one that is refused for its length, by
the reader of doubles.  Both readers allow other texts as well and may refuse a text.
None that gets so far is refused in the end, and the steps lead to the number that the
text denotes: the integer itself or the nearest double.  So the spelling of a number
does not matter.
-/

namespace FleetConfig

/-! ## Reading in steps -/

/-- Whether underscores stand only between two digits, after some character. -/
def underscoresJoin : (previous : Char) → (characters : List Char) → Bool
  | previous, [] =>
      previous != '_'
  | previous, character :: rest =>
      (if character == '_' then
          Text.isDigit previous
        else
          previous != '_' || Text.isDigit character) &&
        underscoresJoin character rest

/-- The doubles that are written as words, in any letter case. -/
def wordDouble? (characters : List Char) : Option Binary64 :=
  let (negative, word) := Numeral.splitSign characters
  let name := String.ofList (word.map Char.toLower)
  if name == "inf" || name == "infinity" then
    some (.infinite negative)
  else if name == "nan" then
    some .nan
  else
    none

/-- Read a double: a numeral, in which underscores may join digits, or a word. -/
def readDouble (text : String) : Except String Binary64 :=
  let refusal := "could not convert string to float: " ++ Text.quoted text
  let characters := Text.stripWhile Text.isBlankByNumber text.toList
  let joined := characters.filter (· != '_')
  -- An underscore in front has no digit before it.
  if underscoresJoin ' ' characters then
    match Numeral.readAll? joined with
    | some numeral =>
        .ok numeral.toBinary64
    | none =>
        (wordDouble? joined).elim (.error refusal) .ok
  else
    .error refusal

/-- Whether a text that has no blanks around it is written as an integer. -/
def isIntegerText (text : String) : Bool :=
  let (_, digits) := Numeral.splitSign text.toList
  !digits.isEmpty && digits.all Text.isDigit

/-- Whether the grammar allows a text. -/
def IsNumberText (text : String) : Prop :=
  ∃ literal : NumberLiteral, literal.text = text

theorem isSome_read?_iff
    {text : String} :
    (Numeral.read? text).isSome = true ↔ IsNumberText text := by
  simp only [Option.isSome_iff_exists, Numeral.read?_eq_some_iff]
  exact
    ⟨fun ⟨_, literal, same, _⟩ => ⟨literal, same⟩,
      fun ⟨literal, same⟩ => ⟨_, literal, same, rfl⟩⟩

instance (text : String) : Decidable (IsNumberText text) :=
  decidable_of_iff _ isSome_read?_iff

/-- Read a number in steps; a text that the grammar does not allow is none. -/
def readNumber (text : String) : Except String (Option Number) :=
  let trimmed := Text.strip text
  let asDouble := (readDouble trimmed).map fun double => some (.double double)
  if IsNumberText text then
    if isIntegerText trimmed then
      match readInteger trimmed with
      | .ok value =>
          .ok (some (.integer value))
      | .error _ =>
          asDouble
    else
      asDouble
  else
    .ok none

theorem underscoresJoin_of_none
    {characters : List Char}
    (none : ∀ character ∈ characters, character ≠ '_') :
    ∀ {previous : Char}, previous ≠ '_' →
      underscoresJoin previous characters = true := by
  induction characters with
  | nil =>
      intro previous notHere
      simpa [underscoresJoin] using notHere
  | cons character rest inductionHypothesis =>
      intro previous notHere
      obtain ⟨notNext, notLater⟩ := List.forall_mem_cons.mp none
      simp [underscoresJoin, notHere, notNext, inductionHypothesis notLater notNext]

namespace NumberLiteral

variable (literal : NumberLiteral)

/-- Whether there is neither a fraction nor an exponent. -/
def IsInteger : Prop :=
  literal.fraction? = none ∧ literal.exponent? = none

theorem strip_text :
    Text.strip literal.text = String.ofList literal.core := by
  rw [Text.strip, literal.stripBlanks_text]

/-- The reader of doubles does not refuse what the grammar allows. -/
theorem readDouble_core :
    readDouble (String.ofList literal.core) = .ok literal.numeral.toBinary64 := by
  have stripped :
      Text.stripWhile Text.isBlankByNumber literal.core = literal.core :=
    Text.stripWhile_of_none fun character member =>
      Text.isBlankByNumber_of_isBlank
        (literal.isBlank_of_mem_core character member)
  have noUnderscore : ∀ character ∈ literal.core, character ≠ '_' :=
    literal.forall_mem_core (by decide)
      (fun _ digit => ne_underscore_of_isFigure (Text.isFigure_of_isDigit digit))
      (by decide) (by decide)
  have joined : literal.core.filter (· != '_') = literal.core :=
    List.filter_eq_self.mpr fun character member =>
      bne_iff_ne.mpr (noUnderscore character member)
  unfold readDouble
  simp only [String.toList_ofList, stripped, joined,
    underscoresJoin_of_none noUnderscore (by decide : ' ' ≠ '_'),
    Numeral.readAll?_core, ↓reduceIte]

/-- A literal is written as an integer exactly if it has no fraction and no exponent. -/
theorem isIntegerText_core :
    isIntegerText (String.ofList literal.core) = true ↔ literal.IsInteger := by
  have areWhole := (List.forall_mem_append.mp literal.areDigits).1
  have notEmpty := literal.notEmpty
  unfold isIntegerText IsInteger
  rw [String.toList_ofList, Numeral.splitSign_core]
  cases fraction : literal.fraction? with
  | some fraction =>
      have point : Text.isDigit '.' = false := by decide
      simp [pointed, point]
  | none =>
      rw [fraction] at notEmpty
      cases literal.exponent? with
      | some exponent =>
          have notDigit : Text.isDigit exponent.mark = false :=
            exponent.holds_mark (Text.isDigit · = false) (by decide)
          simp [pointed, ExponentLiteral.characters, notDigit]
      | none =>
          simpa [pointed, ExponentLiteral.characters] using
            ⟨by simpa using notEmpty, areWhole⟩

/-- Whether a literal denotes an integer: it is written as one that is not too long. -/
def DenotesInteger : Prop :=
  literal.IsInteger ∧ literal.whole.length ≤ integerDigitLimit

/-- The integer that the digits before the point denote, with the sign. -/
def integer : Int :=
  Binary64.signed literal.negative (Text.numberOfDigits literal.whole)

theorem toNumber_of_denotesInteger
    (denotesInteger : literal.DenotesInteger) :
    literal.numeral.toNumber = .integer literal.integer := by
  obtain ⟨isInteger, short⟩ := denotesInteger
  refine if_pos ?_
  simpa [Numeral.isWhole, numeral, isInteger.1, isInteger.2] using short

theorem toNumber_of_not
    (isDouble : ¬ literal.DenotesInteger) :
    literal.numeral.toNumber = .double literal.numeral.toBinary64 := by
  refine if_neg fun isShortInteger => isDouble ?_
  obtain ⟨isWhole, short⟩ := Bool.and_eq_true_iff.mp isShortInteger
  exact
    ⟨by simpa [Numeral.isWhole, numeral, IsInteger] using isWhole,
      of_decide_eq_true short⟩

theorem readInteger_core
    (isInteger : literal.IsInteger) :
    readInteger (String.ofList literal.core) =
      if integerDigitLimit < literal.whole.length then
        .error (.tooManyDigits literal.whole.length)
      else
        .ok literal.integer := by
  have signed := Numeral.splitSign_core literal
  have areDigits := literal.areDigits
  have notEmpty := literal.notEmpty
  simp only [isInteger.1, isInteger.2, pointed, ExponentLiteral.characters,
    Option.getD_none, List.append_nil] at signed areDigits notEmpty
  exact readInteger_of_signedDigits literal.isBlank_of_mem_core signed areDigits notEmpty

/-- A literal is not refused, but read as the numeral that the grammar makes of it. -/
theorem readNumber_text :
    readNumber literal.text = .ok (some literal.numeral.toNumber) := by
  have allowed : IsNumberText literal.text := ⟨literal, rfl⟩
  unfold readNumber
  simp only [literal.strip_text, literal.readDouble_core, if_pos allowed]
  by_cases isInteger : literal.IsInteger
  · rw [if_pos (literal.isIntegerText_core.mpr isInteger),
      literal.readInteger_core isInteger]
    by_cases long : integerDigitLimit < literal.whole.length
    · have isDouble : ¬ literal.DenotesInteger :=
        fun denotesInteger => Nat.not_lt_of_le denotesInteger.2 long
      rw [if_pos long, literal.toNumber_of_not isDouble]
      rfl
    · rw [if_neg long,
        literal.toNumber_of_denotesInteger ⟨isInteger, Nat.le_of_not_lt long⟩]
  · have isDouble : ¬ literal.DenotesInteger :=
      fun denotesInteger => isInteger denotesInteger.1
    rw [if_neg (mt literal.isIntegerText_core.mp isInteger),
      literal.toNumber_of_not isDouble]
    rfl

theorem number?_text_eq :
    (Scalar.text literal.text).number? = some literal.numeral.toNumber := by
  have isRead : Numeral.read? literal.text = some literal.numeral :=
    Numeral.read?_eq_some_iff.mpr ⟨literal, rfl, rfl⟩
  rw [Scalar.number?, isRead]
  rfl

end NumberLiteral

theorem number?_eq_none_iff
    {text : String} :
    (Scalar.text text).number? = none ↔ ¬ IsNumberText text := by
  rw [Scalar.number?, Option.map_eq_none_iff, ← isSome_read?_iff,
    Option.not_isSome_iff_eq_none]

/-! ## What a literal denotes -/

theorem Text.numberOfDigits_append
    (digits others : List Char) :
    numberOfDigits (digits ++ others) =
      numberOfDigits digits * 10 ^ others.length + numberOfDigits others := by
  induction others using List.reverseRecOn with
  | nil =>
      simp [numberOfDigits]
  | append_singleton others last inductionHypothesis =>
      have next :
          ∀ characters,
            numberOfDigits (characters ++ [last]) =
              10 * numberOfDigits characters + (digitValue? last).getD 0 := by
        intro characters
        simp [numberOfDigits]
      rw [← List.append_assoc, next, next, inductionHypothesis, List.length_append,
        List.length_singleton, Nat.pow_succ]
      ring

namespace ExponentLiteral

/-- The number that an exponent denotes. -/
def value (exponent : ExponentLiteral) : ℤ :=
  Binary64.signed exponent.negative (Text.numberOfDigits exponent.digits)

end ExponentLiteral

namespace NumberLiteral

variable (literal : NumberLiteral)

/-- The digits after the point. -/
def fraction : List Char :=
  literal.fraction?.getD []

/-- The power of ten that a literal is scaled by. -/
def exponent : ℤ :=
  (literal.exponent?.map ExponentLiteral.value).getD 0

/-- The decimal value that a literal denotes, the sign apart. -/
def size : ℚ :=
  (Text.numberOfDigits literal.whole +
      Text.numberOfDigits literal.fraction / 10 ^ literal.fraction.length) *
    10 ^ literal.exponent

theorem size_numeral :
    literal.numeral.size = literal.size := by
  have scale :
      literal.numeral.scale = literal.exponent - literal.fraction.length := by
    unfold Numeral.scale exponent fraction numeral
    dsimp only
    cases literal.exponent? with
    | none =>
        rfl
    | some exponent =>
        rfl
  have digits :
      literal.numeral.whole ++ literal.numeral.fraction?.getD [] =
        literal.whole ++ literal.fraction :=
    rfl
  have ten : (10 : ℚ) ≠ 0 := by norm_num
  rw [Numeral.size, scale, digits, Text.numberOfDigits_append, zpow_sub₀ ten,
    zpow_natCast, size]
  push_cast
  field_simp

/--
The number that a literal denotes: an integer that is not too long denotes itself, and
everything else the double nearest to its decimal value.
-/
inductive Denotes : Number → Prop where
  | integer
      (denotesInteger : literal.DenotesInteger) :
      Denotes (.integer literal.integer)
  | double
      {double : Binary64}
      (isDouble : ¬ literal.DenotesInteger)
      (nearest :
        double.IsNearest literal.negative (literal.size * Binary64.unitsInOne)) :
      Denotes (.double double)

theorem denotes_toNumber :
    literal.Denotes literal.numeral.toNumber := by
  by_cases denotesInteger : literal.DenotesInteger
  · rw [literal.toNumber_of_denotesInteger denotesInteger]
    exact .integer denotesInteger
  · rw [literal.toNumber_of_not denotesInteger]
    refine .double denotesInteger ?_
    rw [← literal.size_numeral]
    exact Binary64.isNearest_ofDecimal _ _ _

variable {literal}

theorem Denotes.unique
    {number other : Number}
    (denotes : literal.Denotes number)
    (otherDenotes : literal.Denotes other) :
    number = other := by
  cases denotes with
  | integer denotesInteger =>
      cases otherDenotes with
      | integer =>
          rfl
      | double isDouble =>
          exact absurd denotesInteger isDouble
  | double isDouble nearest =>
      cases otherDenotes with
      | integer denotesInteger =>
          exact absurd denotesInteger isDouble
      | double _ otherNearest =>
          rw [nearest.unique otherNearest]

end NumberLiteral

/-! ## Spellings of one number -/

/-- The number that values of digits denote in their places. -/
def Text.numberOfValues (values : List (Option Nat)) : Nat :=
  values.foldl (fun total value => 10 * total + value.getD 0) 0

/-- The values of digits, without zeros in front. -/
def Text.significant (digits : List Char) : List (Option Nat) :=
  (digits.map digitValue?).dropWhile (· == some 0)

theorem Text.numberOfDigits_eq_values
    (digits : List Char) :
    numberOfDigits digits = numberOfValues (digits.map digitValue?) := by
  rw [numberOfValues, List.foldl_map]
  rfl

/-- Zeros in front do not change the number. -/
theorem Text.numberOfDigits_eq_significant
    (digits : List Char) :
    numberOfDigits digits = numberOfValues (significant digits) := by
  rw [numberOfDigits_eq_values, significant]
  induction digits.map digitValue? with
  | nil =>
      rfl
  | cons value rest inductionHypothesis =>
      rw [List.dropWhile_cons]
      split
      case isTrue zero =>
        rw [← inductionHypothesis, eq_of_beq zero]
        rfl
      case isFalse =>
        rfl

namespace NumberLiteral

/--
Two literals differ in blanks, in a plus, in zeros before the number or its exponent, in
the script of digits and in the mark of the exponent alone.  If they are written as
integers, both are too long or neither is.
-/
structure Alike (literal other : NumberLiteral) : Prop where
  negative : literal.negative = other.negative
  whole : Text.significant literal.whole = Text.significant other.whole
  fraction :
    literal.fraction?.map (·.map Text.digitValue?) =
      other.fraction?.map (·.map Text.digitValue?)
  exponent :
    (literal.exponent?.map fun exponent =>
        (exponent.negative, Text.significant exponent.digits)) =
      other.exponent?.map fun exponent =>
        (exponent.negative, Text.significant exponent.digits)
  short :
    literal.IsInteger →
      (literal.whole.length ≤ integerDigitLimit ↔
        other.whole.length ≤ integerDigitLimit)

namespace Alike

variable {literal other : NumberLiteral} (alike : literal.Alike other)

include alike

theorem isInteger_iff :
    literal.IsInteger ↔ other.IsInteger := by
  have sameFraction := congrArg Option.isNone alike.fraction
  have sameExponent := congrArg Option.isNone alike.exponent
  simp only [Option.isNone_map] at sameFraction sameExponent
  simp only [IsInteger, ← Option.isNone_iff_eq_none, sameFraction, sameExponent]

theorem denotesInteger_iff :
    literal.DenotesInteger ↔ other.DenotesInteger := by
  unfold DenotesInteger
  rw [← alike.isInteger_iff]
  exact and_congr_right alike.short

theorem numberOfDigits_whole :
    Text.numberOfDigits literal.whole = Text.numberOfDigits other.whole := by
  rw [Text.numberOfDigits_eq_significant, alike.whole,
    ← Text.numberOfDigits_eq_significant]

theorem integer_eq :
    literal.integer = other.integer := by
  rw [integer, alike.negative, alike.numberOfDigits_whole]
  rfl

theorem fraction_eq :
    literal.fraction.map Text.digitValue? = other.fraction.map Text.digitValue? := by
  have byValues :
      ∀ spelling : NumberLiteral,
        spelling.fraction.map Text.digitValue? =
          (spelling.fraction?.map (·.map Text.digitValue?)).getD [] :=
    fun spelling => (Option.getD_map (·.map Text.digitValue?) [] spelling.fraction?).symm
  rw [byValues, alike.fraction, ← byValues]

theorem exponent_eq :
    NumberLiteral.exponent literal = NumberLiteral.exponent other := by
  have bySignificant :
      ∀ spelling : NumberLiteral,
        NumberLiteral.exponent spelling =
          ((spelling.exponent?.map fun exponent =>
              (exponent.negative, Text.significant exponent.digits)).map
            fun parts => Binary64.signed parts.1 (Text.numberOfValues parts.2)).getD
              0 := by
    intro spelling
    unfold NumberLiteral.exponent ExponentLiteral.value
    simp only [Option.map_map, Function.comp_def, Text.numberOfDigits_eq_significant]
  rw [bySignificant, alike.exponent, ← bySignificant]

theorem size_eq :
    literal.size = other.size := by
  have sameLength : literal.fraction.length = other.fraction.length := by
    simpa using congrArg List.length alike.fraction_eq
  rw [size, alike.numberOfDigits_whole, alike.exponent_eq, sameLength,
    Text.numberOfDigits_eq_values literal.fraction, alike.fraction_eq,
    ← Text.numberOfDigits_eq_values, size]

theorem denotes
    {number : Number}
    (denotes : literal.Denotes number) :
    other.Denotes number := by
  cases denotes with
  | integer denotesInteger =>
      rw [alike.integer_eq]
      exact .integer (alike.denotesInteger_iff.mp denotesInteger)
  | double isDouble nearest =>
      rw [alike.negative, alike.size_eq] at nearest
      exact .double (mt alike.denotesInteger_iff.mpr isDouble) nearest

end Alike

end NumberLiteral

/--
Reading a text in steps never fails and gives the number of the text, and it gives none
exactly if the grammar does not allow the text.  If the grammar does, the number is what
the text denotes as the grammar takes it apart: the integer of at most
`integerDigitLimit` digits, or else the nearest double.  Every other spelling of it
denotes the same number.
-/
theorem readNumber_by_grammar
    (text : String) :
    readNumber text = .ok (Scalar.text text).number? ∧
      ((Scalar.text text).number? = none ↔ ¬ IsNumberText text) ∧
      ∀ literal : NumberLiteral, literal.text = text →
        ∃ number,
          (Scalar.text text).number? = some number ∧
            literal.Denotes number ∧
            ∀ other : NumberLiteral, literal.Alike other →
              (Scalar.text other.text).number? = some number := by
  have numberOf := NumberLiteral.number?_text_eq
  refine ⟨?_, ?_, ?_⟩
  · by_cases allowed : IsNumberText text
    · obtain ⟨literal, rfl⟩ := allowed
      rw [literal.readNumber_text, numberOf]
    · rw [readNumber, if_neg allowed, ← number?_eq_none_iff.mpr allowed]
  · exact number?_eq_none_iff
  · rintro literal rfl
    refine ⟨_, numberOf literal, literal.denotes_toNumber, fun other alike => ?_⟩
    rw [numberOf other,
      (alike.denotes literal.denotes_toNumber).unique other.denotes_toNumber]

namespace Sample

theorem areDigits_seven : Text.AreDigits ['0', '0', '7'] := by
  simp only [List.forall_mem_cons]
  exact ⟨by decide, by decide, by decide, List.forall_mem_nil _⟩

/-- Seven with two zeros in front. -/
def seven : NumberLiteral where
  before := []
  minus? := none
  whole := ['0', '0', '7']
  fraction? := none
  exponent? := none
  after := []
  blankBefore := Text.areBlank_nil
  areDigits := areDigits_seven
  notEmpty := by simp
  blankAfter := Text.areBlank_nil

/-- Seven in another script, after a tab and a plus. -/
def sevenElsewhere : NumberLiteral where
  before := ['\t']
  minus? := some false
  whole := ['٧']
  fraction? := none
  exponent? := none
  after := []
  blankBefore := List.forall_mem_singleton.mpr (by decide)
  areDigits := List.forall_mem_singleton.mpr (by decide)
  notEmpty := by simp
  blankAfter := Text.areBlank_nil

theorem alike_seven : seven.Alike sevenElsewhere where
  negative := rfl
  whole := by decide
  fraction := rfl
  exponent := rfl
  short := fun _ => by decide

end Sample

/-- Seven is read from both spellings. -/
theorem readNumber_by_grammar_sample :
    Sample.seven.text = "007" ∧
      Sample.sevenElsewhere.text = "\t+٧" ∧
      Sample.seven.Alike Sample.sevenElsewhere ∧
      readNumber "007" = .ok (some (.integer 7)) ∧
      (Scalar.text "\t+٧").number? = some (.integer 7) := by
  obtain ⟨isRead, -, taken⟩ := readNumber_by_grammar "007"
  obtain ⟨number, isNumber, denotes, spellings⟩ := taken Sample.seven rfl
  have isSeven : number = .integer 7 := by
    cases denotes with
    | integer =>
        exact congrArg Number.integer (by decide)
    | double isDouble =>
        exact absurd ⟨⟨rfl, rfl⟩, by decide⟩ isDouble
  rw [isNumber, isSeven] at isRead
  rw [isSeven] at spellings
  exact ⟨rfl, rfl, Sample.alike_seven, isRead,
    spellings Sample.sevenElsewhere Sample.alike_seven⟩

end FleetConfig
