import FleetConfig.Proofs.Number.Literal

/-!
# The grammar of numbers

A number is written with an optional sign, digits of any script with an optional
fraction or a fraction alone, and an optional exponent, between blanks.  The reader
accepts exactly the texts of this grammar and takes each apart as the grammar does.
-/

namespace FleetConfig

/-- Digits of any script. -/
abbrev Text.AreDigits (characters : List Char) : Prop :=
  ∀ character ∈ characters, Text.isDigit character = true

/-- The text of an exponent. -/
structure ExponentLiteral where
  mark : Char
  minus? : Option Bool
  digits : List Char
  isMark : mark = 'e' ∨ mark = 'E'
  notEmpty : digits ≠ []
  areDigits : Text.AreDigits digits

namespace ExponentLiteral

/-- Whether the sign is a minus. -/
def negative (exponent : ExponentLiteral) : Bool :=
  exponent.minus?.getD false

/-- An exponent as text, if there is one. -/
def characters : Option ExponentLiteral → List Char
  | none =>
      []
  | some exponent =>
      exponent.mark :: (IntegerLiteral.sign exponent.minus? ++ exponent.digits)

theorem holds_mark
    (holds : Char → Prop)
    (ofMarks : holds 'e' ∧ holds 'E')
    (exponent : ExponentLiteral) :
    holds exponent.mark := by
  rcases exponent.isMark with isMark | isMark
  · rw [isMark]
    exact ofMarks.1
  · rw [isMark]
    exact ofMarks.2

/-- An exponent as it is read. -/
def parts (exponent : ExponentLiteral) : Bool × List Char :=
  (exponent.negative, exponent.digits)

end ExponentLiteral

/-- The text of a number; its digits stand before the point, after it or on both sides. -/
structure NumberLiteral where
  before : List Char
  minus? : Option Bool
  whole : List Char
  fraction? : Option (List Char)
  exponent? : Option ExponentLiteral
  after : List Char
  blankBefore : Text.AreBlank before
  areDigits : Text.AreDigits (whole ++ fraction?.getD [])
  notEmpty : whole ++ fraction?.getD [] ≠ []
  blankAfter : Text.AreBlank after

namespace NumberLiteral

/-- A fraction as text, after its point, if there is one. -/
def pointed : Option (List Char) → List Char
  | none =>
      []
  | some fraction =>
      '.' :: fraction

variable (literal : NumberLiteral)

/-- Whether the sign is a minus. -/
def negative : Bool :=
  literal.minus?.getD false

/-- A literal as text, without the blanks around it. -/
def core : List Char :=
  IntegerLiteral.sign literal.minus? ++
    (literal.whole ++
      (pointed literal.fraction? ++ ExponentLiteral.characters literal.exponent?))

/-- A literal as text. -/
def text : String :=
  String.ofList (literal.before ++ literal.core ++ literal.after)

/-- A literal as it is read. -/
def numeral : Numeral :=
  ⟨literal.negative, literal.whole, literal.fraction?,
    literal.exponent?.map ExponentLiteral.parts⟩

end NumberLiteral

namespace Numeral

variable {characters digits rest : List Char}

/-! ## What the grammar allows is read -/

theorem ne_sign_of_mem_head?_append
    (areDigits : Text.AreDigits digits)
    (noSign : ∀ character ∈ rest.head?, character ≠ '+' ∧ character ≠ '-') :
    ∀ character ∈ (digits ++ rest).head?,
      character ≠ '+' ∧ character ≠ '-' := by
  cases digits with
  | nil =>
      exact noSign
  | cons first others =>
      intro character member
      cases Option.mem_some.mp member
      exact ne_sign_of_isDigit (areDigits first List.mem_cons_self)

/-- An exponent, or none, is read as the grammar takes it apart. -/
theorem readExponent?_characters
    (exponent? : Option ExponentLiteral) :
    readExponent? (ExponentLiteral.characters exponent?) =
      some (exponent?.map ExponentLiteral.parts) := by
  cases exponent? with
  | none =>
      rfl
  | some exponent =>
      have noSign :
          ∀ character ∈ (exponent.digits ++ []).head?,
            character ≠ '+' ∧ character ≠ '-' :=
        ne_sign_of_mem_head?_append exponent.areDigits nofun
      have signed := IntegerLiteral.splitSign_sign_append exponent.minus? noSign
      have allDigits := splitDigits_append exponent.areDigits endsDigits_nil
      have isMark : (exponent.mark == 'e' || exponent.mark == 'E') = true := by
        simpa using exponent.isMark
      rw [List.append_nil] at signed allDigits
      simp [ExponentLiteral.characters, ExponentLiteral.parts,
        ExponentLiteral.negative, readExponent?, isMark, signed, allDigits,
        exponent.notEmpty]

/-- An exponent begins with its mark. -/
theorem forall_head?_characters
    {holds : Char → Prop}
    (ofMarks : holds 'e' ∧ holds 'E')
    (exponent? : Option ExponentLiteral) :
    ∀ character ∈ (ExponentLiteral.characters exponent?).head?,
      holds character := by
  cases exponent? with
  | none =>
      exact nofun
  | some exponent =>
      intro character first
      cases Option.mem_some.mp first
      exact exponent.holds_mark holds ofMarks

theorem endsDigits_characters
    (exponent? : Option ExponentLiteral) :
    EndsDigits (ExponentLiteral.characters exponent?) :=
  forall_head?_characters (by decide) exponent?

/-- The sign of a literal is taken off its front. -/
theorem splitSign_core
    (literal : NumberLiteral) :
    splitSign literal.core =
      (literal.negative,
        literal.whole ++
          (NumberLiteral.pointed literal.fraction? ++
            ExponentLiteral.characters literal.exponent?)) := by
  have areWhole := (List.forall_mem_append.mp literal.areDigits).1
  refine IntegerLiteral.splitSign_sign_append literal.minus?
    (ne_sign_of_mem_head?_append areWhole ?_)
  intro character first
  cases fraction : literal.fraction? with
  | some fraction =>
      rw [fraction] at first
      cases Option.mem_some.mp first
      decide
  | none =>
      have noSign :
          ∀ character ∈ (ExponentLiteral.characters literal.exponent?).head?,
            character ≠ '+' ∧ character ≠ '-' :=
        forall_head?_characters (by decide) literal.exponent?
      rw [fraction] at first
      exact noSign character first

/-- A literal without blanks around it is read as the grammar takes it apart. -/
theorem readAll?_core
    (literal : NumberLiteral) :
    readAll? literal.core = some literal.numeral := by
  have signed := splitSign_core literal
  have ends := endsDigits_characters literal.exponent?
  have exponentRead := readExponent?_characters literal.exponent?
  have areDigits := literal.areDigits
  have notEmpty := literal.notEmpty
  unfold NumberLiteral.numeral
  cases fraction : literal.fraction? with
  | some fraction =>
      rw [fraction] at signed areDigits notEmpty
      obtain ⟨areWhole, areFraction⟩ := List.forall_mem_append.mp areDigits
      rw [readAll?_point signed areWhole areFraction notEmpty ends, exponentRead]
      rfl
  | none =>
      rw [fraction] at areDigits notEmpty
      rw [fraction, NumberLiteral.pointed, List.nil_append] at signed
      obtain ⟨areWhole, -⟩ := List.forall_mem_append.mp areDigits
      have noPoint :
          ∀ character ∈ (ExponentLiteral.characters literal.exponent?).head?,
            character ≠ '.' :=
        forall_head?_characters (by decide) literal.exponent?
      rw [readAll?_whole signed areWhole (by simpa using notEmpty) ends
          fun first => noPoint '.' first rfl,
        exponentRead]
      rfl

/-! ## What is read the grammar allows -/

theorem exists_sign_of_splitSign
    {negative : Bool}
    (signed : splitSign characters = (negative, rest)) :
    ∃ minus? : Option Bool,
      minus?.getD false = negative ∧
        characters = IntegerLiteral.sign minus? ++ rest := by
  unfold splitSign at signed
  split at signed
  case h_1 =>
    cases signed
    exact ⟨some false, rfl, rfl⟩
  case h_2 =>
    cases signed
    exact ⟨some true, rfl, rfl⟩
  case h_3 =>
    cases signed
    exact ⟨none, rfl, rfl⟩

theorem append_of_splitDigits
    (split : splitDigits characters = (digits, rest)) :
    characters = digits ++ rest ∧ Text.AreDigits digits := by
  cases split
  exact ⟨List.takeWhile_append_dropWhile.symm,
    fun _ member => List.mem_takeWhile_imp member⟩

/-- What is read as an exponent, or as none, is the text of one. -/
theorem exists_characters_of_readExponent?
    {parts? : Option (Bool × List Char)}
    (isRead : readExponent? characters = some parts?) :
    ∃ exponent? : Option ExponentLiteral,
      exponent?.map ExponentLiteral.parts = parts? ∧
        characters = ExponentLiteral.characters exponent? := by
  cases characters with
  | nil =>
      cases isRead
      exact ⟨none, rfl, rfl⟩
  | cons mark afterMark =>
      rcases signed : splitSign afterMark with ⟨negative, afterSign⟩
      rcases taken : splitDigits afterSign with ⟨digits, after⟩
      simp only [readExponent?, signed, taken] at isRead
      split_ifs at isRead with isMark wrong
      cases isRead
      obtain ⟨notEmpty, rfl⟩ : digits ≠ [] ∧ after = [] := by
        simpa using wrong
      obtain ⟨minus?, rfl, rfl⟩ := exists_sign_of_splitSign signed
      obtain ⟨rfl, areDigits⟩ := append_of_splitDigits taken
      refine ⟨some
        { mark, minus?, digits, notEmpty, areDigits,
          isMark := by simpa using isMark }, rfl, ?_⟩
      rw [List.append_nil]
      rfl

/-- What is read as a numeral is the text of a number without blanks around it. -/
theorem exists_core_of_readAll?
    {numeral : Numeral}
    (isRead : readAll? characters = some numeral) :
    ∃ literal : NumberLiteral,
      literal.before = [] ∧ literal.after = [] ∧
        literal.numeral = numeral ∧ characters = literal.core := by
  rcases signed : splitSign characters with ⟨negative, afterSign⟩
  rcases taken : splitDigits afterSign with ⟨whole, afterWhole⟩
  obtain ⟨minus?, rfl, rfl⟩ := exists_sign_of_splitSign signed
  obtain ⟨rfl, areWhole⟩ := append_of_splitDigits taken
  simp only [readAll?, signed, taken] at isRead
  split at isRead
  case h_1 _ afterPoint =>
    rcases takenAfter : splitDigits afterPoint with ⟨fraction, after⟩
    obtain ⟨rfl, areFraction⟩ := append_of_splitDigits takenAfter
    simp only [takenAfter] at isRead
    split_ifs at isRead with noDigits
    obtain ⟨parts?, exponentRead, rfl⟩ := Option.map_eq_some_iff.mp isRead
    obtain ⟨exponent?, rfl, rfl⟩ :=
      exists_characters_of_readExponent? exponentRead
    exact ⟨{ before := [], minus?, whole, fraction? := some fraction, exponent?,
             after := [],
             blankBefore := Text.areBlank_nil, blankAfter := Text.areBlank_nil,
             areDigits := List.forall_mem_append.mpr ⟨areWhole, areFraction⟩,
             notEmpty := by simpa using noDigits },
      rfl, rfl, rfl, rfl⟩
  case h_2 =>
    split_ifs at isRead with noDigits
    obtain ⟨parts?, exponentRead, rfl⟩ := Option.map_eq_some_iff.mp isRead
    obtain ⟨exponent?, rfl, rfl⟩ :=
      exists_characters_of_readExponent? exponentRead
    exact ⟨{ before := [], minus?, whole, fraction? := none, exponent?,
             after := [],
             blankBefore := Text.areBlank_nil, blankAfter := Text.areBlank_nil,
             areDigits := by simpa using areWhole,
             notEmpty := by simpa using noDigits },
      rfl, rfl, rfl, rfl⟩

end Numeral

namespace NumberLiteral

variable (literal : NumberLiteral)

/-! ## Between blanks -/

/-- What holds of signs, digits, the point and the marks holds of every character. -/
theorem forall_mem_core
    {holds : Char → Prop}
    (signs : holds '+' ∧ holds '-')
    (ofDigits : ∀ character, Text.isDigit character = true → holds character)
    (ofPoint : holds '.')
    (ofMarks : holds 'e' ∧ holds 'E') :
    ∀ character ∈ literal.core, holds character := by
  have ofSign := IntegerLiteral.forall_mem_sign signs.1 signs.2
  obtain ⟨areWhole, areFraction⟩ := List.forall_mem_append.mp literal.areDigits
  unfold core
  simp only [List.forall_mem_append]
  refine ⟨ofSign literal.minus?,
    fun character member => ofDigits character (areWhole character member), ?_, ?_⟩
  · cases fraction : literal.fraction? with
    | none =>
        exact List.forall_mem_nil _
    | some digits =>
        rw [fraction] at areFraction
        exact List.forall_mem_cons.mpr
          ⟨ofPoint, fun character member =>
            ofDigits character (areFraction character member)⟩
  · cases literal.exponent? with
    | none =>
        exact List.forall_mem_nil _
    | some exponent =>
        exact List.forall_mem_cons.mpr
          ⟨exponent.holds_mark holds ofMarks, List.forall_mem_append.mpr
            ⟨ofSign exponent.minus?, fun character member =>
              ofDigits character (exponent.areDigits character member)⟩⟩

theorem isBlank_of_mem_core :
    ∀ character ∈ literal.core, Text.isBlank character = false :=
  literal.forall_mem_core (by decide)
    (fun _ digit => Text.isBlank_of_isFigure (Text.isFigure_of_isDigit digit))
    (by decide) (by decide)

theorem core_ne_nil :
    literal.core ≠ [] := by
  intro empty
  have isRead := Numeral.readAll?_core literal
  rw [empty] at isRead
  contradiction

/-- Dropping the blanks around a literal leaves the rest of it. -/
theorem stripBlanks_text :
    Text.stripBlanks literal.text.toList = literal.core := by
  rw [text, String.toList_ofList]
  exact Text.stripBlanks_append literal.blankBefore literal.isBlank_of_mem_core
    literal.core_ne_nil literal.blankAfter

end NumberLiteral

/-- A text is read as a numeral exactly if the grammar takes it apart into that. -/
theorem Numeral.read?_eq_some_iff
    {text : String}
    {numeral : Numeral} :
    read? text = some numeral ↔
      ∃ literal : NumberLiteral, literal.text = text ∧ literal.numeral = numeral := by
  constructor
  · intro isRead
    obtain ⟨literal, -, -, sameNumeral, core⟩ := exists_core_of_readAll? isRead
    obtain ⟨before, after, shape, blankBefore, blankAfter⟩ :=
      Text.exists_eq_append_stripBlanks text.toList
    refine ⟨{ literal with before, after, blankBefore, blankAfter }, ?_, sameNumeral⟩
    rw [← String.toList_inj, shape, core]
    exact String.toList_ofList
  · rintro ⟨literal, rfl, rfl⟩
    rw [read?, literal.stripBlanks_text, readAll?_core]

end FleetConfig
