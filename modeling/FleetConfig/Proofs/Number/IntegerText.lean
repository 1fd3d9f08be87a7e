import FleetConfig.Number.IntegerText
import FleetConfig.Proofs.Number.Reading

/-!
# Reading integers

Dropping the blanks around a row of figures leaves the row.  Such a row is read as
an integer exactly if all its figures are decimal digits and there are not too many
of them; the integer is then the number that the digits denote, in any script.
-/

namespace FleetConfig

namespace Text

/-- A row of blanks. -/
abbrev AreBlank (characters : List Char) : Prop :=
  ∀ character ∈ characters, isBlank character = true

theorem areBlank_nil :
    AreBlank [] :=
  List.forall_mem_nil _

theorem isFigure_of_isDigit
    {character : Char}
    (digit : isDigit character = true) :
    isFigure character = true := by
  rw [isFigure, digit, Bool.true_or]

/-- No blank looks like a digit. -/
theorem isBlank_of_isFigure
    {character : Char}
    (figure : isFigure character = true) :
    isBlank character = false := by
  have apart :
      ∀ code ∈ blankCodes,
        (∀ start ∈ zeroCodes, ¬ (start ≤ code ∧ code < start + 10)) ∧
          inRanges figureRanges code = false := by
    decide
  by_contra notApart
  have blank : character.toNat ∈ blankCodes := by
    simpa [isBlank] using notApart
  obtain ⟨noDigit, noOther⟩ := apart character.toNat blank
  rw [isFigure, noOther, Bool.or_false, isDigit, digitValue?,
    Option.isSome_map, List.find?_isSome] at figure
  obtain ⟨start, listed, within⟩ := figure
  exact noDigit start listed (by simpa using within)

/-- Dropping the blanks at both ends takes off nothing but blanks. -/
theorem exists_eq_append_stripBlanks
    (characters : List Char) :
    ∃ before after,
      characters = before ++ stripBlanks characters ++ after ∧
        AreBlank before ∧ AreBlank after := by
  let kept := characters.dropWhile isBlank
  refine ⟨characters.takeWhile isBlank, (kept.reverse.takeWhile isBlank).reverse,
    ?_, fun _ member => List.mem_takeWhile_imp member,
    fun _ member => List.mem_takeWhile_imp (List.mem_reverse.mp member)⟩
  have ending :
      stripBlanks characters ++ (kept.reverse.takeWhile isBlank).reverse =
        kept := by
    unfold stripBlanks stripWhile
    rw [← List.reverse_append, List.takeWhile_append_dropWhile,
      List.reverse_reverse]
  rw [List.append_assoc, ending, List.takeWhile_append_dropWhile]

section Stripping

variable {drops : Char → Bool} {before core after : List Char}

private theorem dropWhile_append_core
    (dropped : ∀ character ∈ before, drops character = true)
    (noneDropped : ∀ character ∈ core, drops character = false)
    (notEmpty : core ≠ []) :
    (before ++ (core ++ after)).dropWhile drops = core ++ after := by
  obtain ⟨first, rest, rfl⟩ := List.exists_cons_of_ne_nil notEmpty
  rw [List.dropWhile_append_of_pos dropped, List.cons_append]
  exact List.dropWhile_cons_of_neg
    (Bool.eq_false_iff.mp (noneDropped first List.mem_cons_self))

/-- What stands between characters of a kind, and holds none, is what stripping leaves. -/
theorem stripWhile_append
    (droppedBefore : ∀ character ∈ before, drops character = true)
    (noneDropped : ∀ character ∈ core, drops character = false)
    (notEmpty : core ≠ [])
    (droppedAfter : ∀ character ∈ after, drops character = true) :
    stripWhile drops (before ++ core ++ after) = core := by
  have reversedNoneDropped :
      ∀ character ∈ core.reverse, drops character = false :=
    fun character member => noneDropped character (List.mem_reverse.mp member)
  have reversedAfter : ∀ character ∈ after.reverse, drops character = true :=
    fun character member => droppedAfter character (List.mem_reverse.mp member)
  have ending :
      (after.reverse ++ (core.reverse ++ [])).dropWhile drops =
        core.reverse ++ [] :=
    dropWhile_append_core reversedAfter reversedNoneDropped
      (List.reverse_ne_nil_iff.mpr notEmpty)
  unfold stripWhile
  rw [List.append_assoc,
    dropWhile_append_core droppedBefore noneDropped notEmpty,
    List.reverse_append]
  rw [List.append_nil] at ending
  rw [ending, List.reverse_reverse]

theorem stripBlanks_append
    (blankBefore : AreBlank before)
    (noneBlank : ∀ character ∈ core, isBlank character = false)
    (notEmpty : core ≠ [])
    (blankAfter : AreBlank after) :
    stripBlanks (before ++ core ++ after) = core :=
  stripWhile_append blankBefore noneBlank notEmpty blankAfter

theorem stripWhile_of_none
    {characters : List Char}
    (none : ∀ character ∈ characters, drops character = false) :
    stripWhile drops characters = characters := by
  cases characters with
  | nil =>
      rfl
  | cons first rest =>
      have stripped :
          stripWhile drops ([] ++ (first :: rest) ++ []) = first :: rest :=
        stripWhile_append nofun none (List.cons_ne_nil first rest) nofun
      simpa using stripped

theorem stripBlanks_of_none
    {characters : List Char}
    (none : ∀ character ∈ characters, isBlank character = false) :
    stripBlanks characters = characters :=
  stripWhile_of_none none

theorem isBlankByNumber_of_isBlank
    {character : Char}
    (noBlank : isBlank character = false) :
    isBlankByNumber character = false := by
  rw [isBlankByNumber, noBlank, Bool.false_and]

end Stripping

end Text

theorem underscoresSeparate_of_none
    {characters : List Char}
    (none : ∀ character ∈ characters, character ≠ '_') :
    underscoresSeparate characters = true := by
  fun_induction underscoresSeparate characters with
  | case1 =>
      rfl
  | case2 =>
      simp at none
  | case3 rest =>
      simp at none
  | case4 first rest _ _ inductionHypothesis =>
      exact inductionHypothesis fun character member =>
        none character (List.mem_cons_of_mem _ member)

/-- Where no underscore stands, a row of digits and underscores is one of digits. -/
theorem takeWhile_isDigit_of_none
    {characters : List Char}
    (none : ∀ character ∈ characters, character ≠ '_') :
    (characters.takeWhile fun character =>
        Text.isDigit character || character == '_') =
      characters.takeWhile Text.isDigit := by
  induction characters with
  | nil =>
      rfl
  | cons first rest inductionHypothesis =>
      have notHere : (first == '_') = false :=
        beq_eq_false_iff_ne.mpr (none first List.mem_cons_self)
      rw [List.takeWhile_cons, List.takeWhile_cons, notHere, Bool.or_false,
        inductionHypothesis fun character member =>
          none character (List.mem_cons_of_mem first member)]

section Figures

variable {figures : List Char}

/-- Figures have no sign in front. -/
theorem Numeral.splitSign_of_figures
    (areFigures : ∀ character ∈ figures, Text.isFigure character = true) :
    Numeral.splitSign figures = (false, figures) := by
  unfold Numeral.splitSign
  split
  case h_1 rest =>
    have sign := areFigures '+' List.mem_cons_self
    exact absurd sign (by decide)
  case h_2 rest =>
    have sign := areFigures '-' List.mem_cons_self
    exact absurd sign (by decide)
  case h_3 =>
    rfl

theorem ne_underscore_of_isFigure
    {character : Char}
    (figure : Text.isFigure character = true) :
    character ≠ '_' := by
  rintro rfl
  exact absurd figure (by decide)

/-- After a sign, figures are read up to the first that is no decimal digit. -/
theorem readInteger_of_signed
    {characters : List Char}
    {negative : Bool}
    (noBlank : ∀ character ∈ characters, Text.isBlank character = false)
    (signed : Numeral.splitSign characters = (negative, figures))
    (areFigures : ∀ character ∈ figures, Text.isFigure character = true) :
    readInteger (String.ofList characters) =
      let row := figures.takeWhile Text.isDigit
      if integerDigitLimit < row.length then
        .error (.tooManyDigits row.length)
      else if row.isEmpty || row.length != figures.length then
        .error (.malformed (String.ofList characters))
      else
        .ok (Binary64.signed negative (Text.numberOfDigits row)) := by
  have stripped :
      Text.stripWhile Text.isBlankByNumber characters = characters :=
    Text.stripWhile_of_none fun character member =>
      Text.isBlankByNumber_of_isBlank (noBlank character member)
  have noUnderscore : ∀ character ∈ figures, character ≠ '_' :=
    fun character member => ne_underscore_of_isFigure (areFigures character member)
  have sameRow :
      (figures.takeWhile fun character =>
          Text.isDigit character || character == '_') =
        figures.takeWhile Text.isDigit :=
    takeWhile_isDigit_of_none noUnderscore
  have noneInRow :
      ∀ character ∈ figures.takeWhile Text.isDigit, character ≠ '_' :=
    fun character member =>
      noUnderscore character ((List.takeWhile_prefix _).mem member)
  have kept :
      (figures.takeWhile Text.isDigit).filter (· != '_') =
        figures.takeWhile Text.isDigit :=
    List.filter_eq_self.mpr fun character member =>
      bne_iff_ne.mpr (noneInRow character member)
  have head :
      ((figures.takeWhile Text.isDigit).head? == some '_') = false := by
    rw [beq_eq_false_iff_ne]
    intro first
    exact noneInRow '_' (List.mem_of_head? first) rfl
  unfold readInteger
  rw [String.toList_ofList, stripped, signed]
  dsimp only
  rw [sameRow, kept, head, underscoresSeparate_of_none noneInRow]
  rfl

/-- Figures are read up to the first that is no decimal digit. -/
theorem readInteger_of_figures
    (areFigures : ∀ character ∈ figures, Text.isFigure character = true) :
    readInteger (String.ofList figures) =
      let row := figures.takeWhile Text.isDigit
      if integerDigitLimit < row.length then
        .error (.tooManyDigits row.length)
      else if row.isEmpty || row.length != figures.length then
        .error (.malformed (String.ofList figures))
      else
        .ok (Text.numberOfDigits row) :=
  readInteger_of_signed
    (fun character member =>
      Text.isBlank_of_isFigure (areFigures character member))
    (Numeral.splitSign_of_figures areFigures) areFigures

/-- After a sign, decimal digits are read as the number that they denote, if not too many. -/
theorem readInteger_of_signedDigits
    {characters : List Char}
    {negative : Bool}
    (noBlank : ∀ character ∈ characters, Text.isBlank character = false)
    (signed : Numeral.splitSign characters = (negative, figures))
    (areDigits : ∀ character ∈ figures, Text.isDigit character = true)
    (notEmpty : figures ≠ []) :
    readInteger (String.ofList characters) =
      if integerDigitLimit < figures.length then
        .error (.tooManyDigits figures.length)
      else
        .ok (Binary64.signed negative (Text.numberOfDigits figures)) := by
  have areFigures :
      ∀ character ∈ figures, Text.isFigure character = true :=
    fun character member => Text.isFigure_of_isDigit (areDigits character member)
  rw [readInteger_of_signed noBlank signed areFigures,
    List.takeWhile_eq_self_iff.mpr areDigits]
  simp [notEmpty]

/-- Decimal digits are read as the number that they denote, if there are not too many. -/
theorem readInteger_of_digits
    (areDigits : ∀ character ∈ figures, Text.isDigit character = true)
    (notEmpty : figures ≠ []) :
    readInteger (String.ofList figures) =
      if integerDigitLimit < figures.length then
        .error (.tooManyDigits figures.length)
      else
        .ok (Text.numberOfDigits figures) := by
  have areFigures :
      ∀ character ∈ figures, Text.isFigure character = true :=
    fun character member => Text.isFigure_of_isDigit (areDigits character member)
  exact readInteger_of_signedDigits
    (fun character member =>
      Text.isBlank_of_isFigure (areFigures character member))
    (Numeral.splitSign_of_figures areFigures) areDigits notEmpty

/--
Figures are read as an integer exactly if they are decimal digits and not too many;
the integer is the number that they denote.
-/
theorem readInteger_eq_ok_iff
    (areFigures : ∀ character ∈ figures, Text.isFigure character = true)
    {number : Int} :
    readInteger (String.ofList figures) = .ok number ↔
      figures ≠ [] ∧
        (∀ character ∈ figures, Text.isDigit character = true) ∧
        figures.length ≤ integerDigitLimit ∧
        number = Text.numberOfDigits figures := by
  constructor
  · intro isRead
    rw [readInteger_of_figures areFigures] at isRead
    dsimp only at isRead
    split_ifs at isRead with long wrong
    obtain ⟨notEmpty, sameLength⟩ :
        figures.takeWhile Text.isDigit ≠ [] ∧
          (figures.takeWhile Text.isDigit).length = figures.length := by
      simpa using wrong
    have isRow : figures.takeWhile Text.isDigit = figures :=
      (List.takeWhile_prefix _).eq_of_length sameLength
    rw [isRow] at long notEmpty isRead
    exact ⟨notEmpty, List.takeWhile_eq_self_iff.mp isRow,
      Nat.le_of_not_lt long, (Except.ok.inj isRead).symm⟩
  · rintro ⟨notEmpty, areDigits, short, rfl⟩
    rw [readInteger_of_digits areDigits notEmpty,
      if_neg (Nat.not_lt_of_le short)]

end Figures

end FleetConfig
