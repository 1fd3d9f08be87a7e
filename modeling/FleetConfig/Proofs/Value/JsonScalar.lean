import FleetConfig.Proofs.Document.JsonString
import FleetConfig.Proofs.Number.Text
import FleetConfig.Proofs.Value.TextKeys

/-!
# Scalars as JSON text

The JSON text of a scalar tells which scalar it is, and where it ends as long as
no word goes on after it.  A text is told by its quotation marks, everything else
by the letters of a word: integers have none, and of finite doubles only the mark
of an exponent can be one.
-/

namespace FleetConfig

/-- The characters of the words that stand for scalars other than texts. -/
def isWordCharacter (character : Char) : Bool :=
  character.isAlphanum || ['-', '+', '.'].contains character

/-- No word goes on where these characters follow it. -/
def Delimits (rest : List Char) : Prop :=
  ∀ character ∈ rest.head?, isWordCharacter character = false

theorem delimits_nil : Delimits [] := by
  rintro _ ⟨⟩

theorem delimits_cons
    {character : Char}
    (delimiter : isWordCharacter character = false)
    (rest : List Char) :
    Delimits (character :: rest) := by
  rintro _ ⟨⟩
  exact delimiter

/-- Words that are followed by delimiters are told apart from what follows. -/
theorem word_append_inj
    {left right leftRest rightRest : List Char}
    (leftWord : ∀ character ∈ left, isWordCharacter character = true)
    (rightWord : ∀ character ∈ right, isWordCharacter character = true)
    (leftEnds : Delimits leftRest)
    (rightEnds : Delimits rightRest)
    (same : left ++ leftRest = right ++ rightRest) :
    left = right ∧ leftRest = rightRest := by
  have nothing :
      ∀ rest, Delimits rest → rest.takeWhile isWordCharacter = [] := by
    intro rest ends
    cases rest with
    | nil =>
        rfl
    | cons character rest =>
        exact List.takeWhile_cons_of_neg (by simp [ends character rfl])
  have words := congrArg (List.takeWhile isWordCharacter) same
  rw [List.takeWhile_append_of_pos leftWord,
    List.takeWhile_append_of_pos rightWord, nothing _ leftEnds,
    nothing _ rightEnds, List.append_nil, List.append_nil] at words
  subst words
  exact ⟨rfl, List.append_cancel_left same⟩

theorem isWordCharacter_of_isDoubleCharacter
    {character : Char}
    (inNumber : isDoubleCharacter character = true) :
    isWordCharacter character = true := by
  simp only [isDoubleCharacter, isWordCharacter, Char.isAlphanum,
    Bool.or_eq_true, List.contains_iff_mem, List.mem_cons,
    List.not_mem_nil, or_false] at inNumber ⊢
  rcases inNumber with digit | rfl | rfl | rfl | rfl
  · exact .inl (.inr digit)
  all_goals decide

namespace Scalar

/-- Doubles are the same if they have the same text, other scalars if they are equal. -/
def Same : Scalar → Scalar → Prop
  | .double left, .double right =>
      left.text = right.text
  | left, right =>
      left = right

theorem Same.refl
    (scalar : Scalar) :
    scalar.Same scalar := by
  cases scalar <;> rfl

variable {scalar left right : Scalar}

/-- The scalars that are written as fixed words. -/
def fixedWords : List Scalar :=
  [.null, .boolean true, .boolean false, .double .nan,
    .double (.infinite false), .double (.infinite true)]

/-- Each of the fixed words has a letter that numbers do not have. -/
theorem exists_letter_of_mem_fixedWords
    (fixed : scalar ∈ fixedWords) :
    ∃ character ∈ scalar.jsonWord.toList,
      isDoubleCharacter character = false := by
  simp only [fixedWords, List.mem_cons, List.not_mem_nil, or_false] at fixed
  rcases fixed with rfl | rfl | rfl | rfl | rfl | rfl
  · exact ⟨'n', List.mem_cons_self .., rfl⟩
  · exact ⟨'t', List.mem_cons_self .., rfl⟩
  · exact ⟨'f', List.mem_cons_self .., rfl⟩
  · exact ⟨'N', List.mem_cons_self .., rfl⟩
  · exact ⟨'I', List.mem_cons_self .., rfl⟩
  · exact ⟨'I', List.mem_cons_of_mem _ (List.mem_cons_self ..), rfl⟩

theorem isWordCharacter_of_mem_fixedWords
    (fixed : scalar ∈ fixedWords) :
    ∀ character ∈ scalar.jsonWord.toList,
      isWordCharacter character = true := by
  simp only [fixedWords, List.mem_cons, List.not_mem_nil, or_false] at fixed
  rcases fixed with rfl | rfl | rfl | rfl | rfl | rfl <;>
    exact List.all_eq_true.mp rfl

/-- Different scalars are written as different fixed words. -/
theorem eq_of_mem_fixedWords
    (leftFixed : left ∈ fixedWords)
    (rightFixed : right ∈ fixedWords)
    (same : left.jsonWord = right.jsonWord) :
    left = right := by
  have distinct : (fixedWords.map jsonWord).Nodup := by
    decide
  exact List.inj_on_of_nodup_map distinct leftFixed rightFixed same

/-- What is neither a text nor a fixed word is an integer or a finite double. -/
theorem integer_or_finite
    (notText : scalar.isText = false)
    (notFixed : scalar ∉ fixedWords) :
    (∃ value, scalar = .integer value) ∨
      ∃ negative magnitude, scalar = .double (.finite negative magnitude) := by
  cases scalar with
  | null =>
      exact absurd (by simp [fixedWords]) notFixed
  | boolean value =>
      exact absurd (by cases value <;> simp [fixedWords]) notFixed
  | integer value =>
      exact .inl ⟨value, rfl⟩
  | double value =>
      cases value with
      | nan =>
          exact absurd (by simp [fixedWords]) notFixed
      | infinite negative =>
          exact absurd (by cases negative <;> simp [fixedWords]) notFixed
      | finite negative magnitude =>
          exact .inr ⟨negative, magnitude, rfl⟩
  | text value =>
      contradiction

/-- Numbers are written without other letters than the mark of an exponent. -/
theorem isDoubleCharacter_of_mem
    (notText : scalar.isText = false)
    (notFixed : scalar ∉ fixedWords) :
    ∀ character ∈ scalar.jsonWord.toList,
      isDoubleCharacter character = true := by
  intro character member
  rcases integer_or_finite notText notFixed with
      ⟨value, rfl⟩ | ⟨negative, magnitude, rfl⟩
  · have inInteger := isIntegerCharacter_of_mem member
    simp only [isIntegerCharacter, isDoubleCharacter, Bool.or_eq_true,
      beq_iff_eq] at inInteger ⊢
    rcases inInteger with digit | rfl
    · exact .inl digit
    · exact .inr rfl
  · exact Binary64.isDoubleCharacter_of_mem member

/-- All scalars other than texts are written as words. -/
theorem isWordCharacter_of_mem
    (notText : scalar.isText = false) :
    ∀ character ∈ scalar.jsonWord.toList,
      isWordCharacter character = true := by
  by_cases fixed : scalar ∈ fixedWords
  · exact isWordCharacter_of_mem_fixedWords fixed
  · intro character member
    exact isWordCharacter_of_isDoubleCharacter
      (isDoubleCharacter_of_mem notText fixed character member)

theorem jsonWord_ne_nil
    (notText : scalar.isText = false) :
    scalar.jsonWord.toList ≠ [] := by
  by_cases fixed : scalar ∈ fixedWords
  · obtain ⟨character, member, _⟩ := exists_letter_of_mem_fixedWords fixed
    exact List.ne_nil_of_mem member
  · rcases integer_or_finite notText fixed with
        ⟨value, rfl⟩ | ⟨negative, magnitude, rfl⟩
    · exact toString_int_ne_nil value
    · rcases Binary64.mark_mem_text_finite with point | exponent
      · exact List.ne_nil_of_mem point
      · exact List.ne_nil_of_mem exponent

/-- No number is written as a fixed word. -/
theorem jsonWord_ne_of_mem_fixedWords
    (leftFixed : left ∈ fixedWords)
    (rightNotText : right.isText = false)
    (rightNotFixed : right ∉ fixedWords) :
    left.jsonWord ≠ right.jsonWord := by
  intro same
  obtain ⟨character, member, letter⟩ :=
    exists_letter_of_mem_fixedWords leftFixed
  rw [same] at member
  rw [isDoubleCharacter_of_mem rightNotText rightNotFixed character member]
    at letter
  contradiction

/-- No integer is written as a finite double, which has a point or an exponent. -/
theorem jsonWord_integer_ne_finite
    (value : Int)
    (negative : Bool)
    (magnitude : Fin magnitudeCount) :
    (Scalar.integer value).jsonWord ≠
      (Scalar.double (.finite negative magnitude)).jsonWord := by
  intro same
  have characters :
      ∀ character ∈ (Binary64.finite negative magnitude).text.toList,
        isIntegerCharacter character = true := by
    intro character member
    have sameText :
        toString value = (Binary64.finite negative magnitude).text :=
      same
    rw [← sameText] at member
    exact isIntegerCharacter_of_mem member
  rcases Binary64.mark_mem_text_finite with point | exponent
  · exact absurd (characters '.' point) (by decide)
  · exact absurd (characters 'e' exponent) (by decide)

/-- The words tell scalars other than texts apart. -/
theorem same_of_jsonWord_eq
    (leftNotText : left.isText = false)
    (rightNotText : right.isText = false)
    (same : left.jsonWord = right.jsonWord) :
    left.Same right := by
  by_cases leftFixed : left ∈ fixedWords
  · by_cases rightFixed : right ∈ fixedWords
    · rw [eq_of_mem_fixedWords leftFixed rightFixed same]
      exact .refl right
    · exact absurd same
        (jsonWord_ne_of_mem_fixedWords leftFixed rightNotText rightFixed)
  · by_cases rightFixed : right ∈ fixedWords
    · exact absurd same.symm
        (jsonWord_ne_of_mem_fixedWords rightFixed leftNotText leftFixed)
    · rcases integer_or_finite leftNotText leftFixed with
          ⟨value, rfl⟩ | ⟨negative, magnitude, rfl⟩ <;>
        rcases integer_or_finite rightNotText rightFixed with
            ⟨other, rfl⟩ | ⟨otherNegative, otherMagnitude, rfl⟩
      · have sameValue : value = other := by
          apply Int.repr_injective
          rw [← Int.toString_eq_repr, ← Int.toString_eq_repr]
          exact same
        rw [sameValue]
        exact .refl _
      · exact absurd same (jsonWord_integer_ne_finite _ _ _)
      · exact absurd same.symm (jsonWord_integer_ne_finite _ _ _)
      · exact same

theorem json_of_isText_eq_false
    (notText : scalar.isText = false) :
    scalar.json = scalar.jsonWord.toList := by
  cases scalar with
  | text value =>
      contradiction
  | _ =>
      rfl

/-- A text begins with a quotation mark, any other scalar with a character of a word. -/
theorem exists_json_eq_cons
    (scalar : Scalar) :
    ∃ first rest,
      scalar.json = first :: rest ∧
        scalar.isText = (first == '"') ∧
        (first = '"' ∨ isWordCharacter first = true) := by
  cases isText : scalar.isText with
  | true =>
      cases scalar with
      | text value =>
          exact ⟨'"', _, rfl, rfl, .inl rfl⟩
      | _ =>
          contradiction
  | false =>
      rw [json_of_isText_eq_false isText]
      obtain ⟨first, rest, word⟩ :=
        List.exists_cons_of_ne_nil (jsonWord_ne_nil isText)
      have isWord : isWordCharacter first = true := by
        apply isWordCharacter_of_mem isText
        rw [word]
        exact List.mem_cons_self
      refine ⟨first, rest, word, ?_, .inr isWord⟩
      cases quote : first == '"' with
      | true =>
          rw [eq_of_beq quote] at isWord
          contradiction
      | false =>
          rfl

/-- No scalar begins with a bracket. -/
theorem json_append_ne
    (scalar : Scalar)
    {bracket : Char}
    (notQuote : bracket ≠ '"')
    (notWord : isWordCharacter bracket = false)
    (rest more : List Char) :
    scalar.json ++ rest ≠ bracket :: more := by
  intro same
  obtain ⟨first, _, begins, _, opens⟩ := exists_json_eq_cons scalar
  rw [begins] at same
  have sameFirst : first = bracket := (List.cons.inj same).1
  subst sameFirst
  rcases opens with quote | word
  · exact notQuote quote
  · rw [notWord] at word
    contradiction

/-- A scalar with delimiters after it is told from what it begins with. -/
theorem json_append_inj
    {leftRest rightRest : List Char}
    (leftEnds : Delimits leftRest)
    (rightEnds : Delimits rightRest)
    (same : left.json ++ leftRest = right.json ++ rightRest) :
    left.Same right ∧ leftRest = rightRest := by
  obtain ⟨leftFirst, _, leftJson, leftText, _⟩ := exists_json_eq_cons left
  obtain ⟨rightFirst, _, rightJson, rightText, _⟩ := exists_json_eq_cons right
  have sameFirst : leftFirst = rightFirst := by
    rw [leftJson, rightJson] at same
    exact (List.cons.inj same).1
  have sameKind : left.isText = right.isText := by
    rw [leftText, rightText, sameFirst]
  cases isText : right.isText with
  | true =>
      rw [isText] at sameKind
      match left, right, sameKind, isText with
      | .text leftValue, .text rightValue, _, _ =>
          obtain ⟨rfl, sameRest⟩ := Text.jsonString_append_inj same
          exact ⟨.refl _, sameRest⟩
  | false =>
      rw [isText] at sameKind
      rw [json_of_isText_eq_false sameKind,
        json_of_isText_eq_false isText] at same
      obtain ⟨sameWord, sameRest⟩ :=
        word_append_inj (isWordCharacter_of_mem sameKind)
          (isWordCharacter_of_mem isText) leftEnds rightEnds same
      exact ⟨same_of_jsonWord_eq sameKind isText
        (String.toList_inj.mp sameWord), sameRest⟩

/-- A finite double is written in JSON as anywhere else. -/
theorem jsonDouble_of_isFinite
    {double : Binary64}
    (finite : double.isFinite = true) :
    jsonDouble double = double.text := by
  cases double with
  | finite negative magnitude =>
      rfl
  | _ =>
      contradiction

/-- Doubles with the same text have the same JSON text. -/
theorem jsonDouble_eq_of_text_eq
    {left right : Binary64}
    (same : left.text = right.text) :
    jsonDouble left = jsonDouble right := by
  have sameKind := Binary64.isFinite_eq_of_text_eq same
  cases finite : right.isFinite with
  | true =>
      rw [finite] at sameKind
      rw [jsonDouble_of_isFinite sameKind, jsonDouble_of_isFinite finite, same]
  | false =>
      rw [finite] at sameKind
      rw [Binary64.eq_of_text_eq sameKind finite same]

/-- The same scalars have the same JSON text. -/
theorem json_eq_of_same
    (same : left.Same right) :
    left.json = right.json := by
  cases left with
  | double value =>
      cases right with
      | double other =>
          exact congrArg String.toList (jsonDouble_eq_of_text_eq same)
      | _ =>
          contradiction
  | _ =>
      cases right <;> first | contradiction | exact congrArg json same

end Scalar

end FleetConfig
