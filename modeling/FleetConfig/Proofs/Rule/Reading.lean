import FleetConfig.Proofs.Supply
import FleetConfig.Proofs.Value.Plain
import FleetConfig.Rule.Basic
import Mathlib

/-!
# What a rule is read from

A rule is read from a record of an identifier, a fact path, an operator and an
expected value.  Writing the rule out gives a record from which it is read again:
the path has no blanks around it any more, the operator has its name, and what
kind of value the rule expects follows from the operator.
-/

namespace FleetConfig

namespace Text

/-- A text without blanks around it is left as it is. -/
theorem stripBlanks_stripBlanks
    (characters : List Char) :
    stripBlanks (stripBlanks characters) = stripBlanks characters := by
  have front :
      ((characters.dropWhile isBlank).rdropWhile isBlank).dropWhile isBlank =
        (characters.dropWhile isBlank).rdropWhile isBlank := by
    refine List.dropWhile_eq_self_iff.mpr fun notEmpty => ?_
    have kept :
        (characters.dropWhile isBlank).rdropWhile isBlank <+:
          characters.dropWhile isBlank :=
      List.rdropWhile_prefix isBlank _
    rw [kept.getElem notEmpty]
    exact List.dropWhile_get_zero_not isBlank characters _
  change
    (((characters.dropWhile isBlank).rdropWhile isBlank).dropWhile
        isBlank).rdropWhile isBlank =
      (characters.dropWhile isBlank).rdropWhile isBlank
  rw [front, List.rdropWhile_idempotent]

theorem strip_strip
    (text : String) :
    strip (strip text) = strip text := by
  unfold strip
  rw [String.toList_ofList, stripBlanks_stripBlanks]

end Text

/-- A path is read from every text that is the path between blanks, and from no other. -/
theorem FactPath.parse_eq_ok_iff
    {text : String}
    {path : FactPath} :
    FactPath.parse text = .ok path ↔ Text.strip text = path.text := by
  unfold FactPath.parse
  dsimp only
  split
  case h_1 segments parsed =>
    rw [Except.ok.injEq]
    constructor
    · rintro rfl
      rfl
    · intro same
      -- The segments of a path are those of its text, so the texts decide.
      obtain ⟨pathText, pathSegments, pathParsed⟩ := path
      dsimp only at same
      subst same
      rw [parsed] at pathParsed
      cases pathParsed
      rfl
  case h_2 reason parsed =>
    constructor
    · exact fun failed => nomatch failed
    · intro same
      rw [same, path.parsed] at parsed
      exact nomatch parsed

/-- An operator is read from its name. -/
theorem Operator.read_name
    (operator : Operator) :
    Operator.read operator.name = .ok operator := by
  cases operator with
  | equality negated =>
      cases negated <;> rfl
  | pattern negated =>
      cases negated <;> rfl
  | ordering order =>
      cases order <;> rfl
  | membership negated =>
      cases negated <;> rfl
  | presence negated =>
      cases negated <;> rfl

namespace Expected

/-- An expected value with `null` for numbers that are not finite. -/
def plain : Expected → Expected
  | .nothing =>
      .nothing
  | .scalar value =>
      .scalar value.plain
  | .list items =>
      .list (items.map Scalar.plain)

theorem toValue_plain
    (expected : Expected) :
    expected.plain.toValue = expected.toValue.plain := by
  cases expected with
  | nothing =>
      rfl
  | scalar value =>
      rfl
  | list items =>
      simp only [plain, toValue, Value.plain, Value.plainItems_eq, List.map_map]
      rfl

theorem scalars_map_scalar
    (items : List Scalar) :
    scalars (items.map .scalar) = .ok items := by
  induction items with
  | nil =>
      rfl
  | cons item rest inductionHypothesis =>
      rw [List.map_cons, scalars, inductionHypothesis]
      rfl

/-- A written value is expected again, but nothing is written as `null`. -/
theorem ofValue_toValue
    (expected : Expected) :
    ofValue expected.toValue =
      .ok (if expected = .nothing then .scalar .null else expected) := by
  cases expected with
  | nothing =>
      rfl
  | scalar value =>
      rfl
  | list items =>
      rw [toValue, ofValue, scalars_map_scalar]
      rfl

end Expected

namespace Condition

/-- A condition with `null` for numbers that are not finite. -/
def plain : Condition → Condition
  | .equality negated expected =>
      .equality negated expected.plain
  | .pattern negated source =>
      .pattern negated source
  | .ordering order bound =>
      .ordering order bound.plain
  | .membership negated items =>
      .membership negated (items.map Scalar.plain)
  | .presence negated =>
      .presence negated

@[simp] theorem operator_plain
    (condition : Condition) :
    condition.plain.operator = condition.operator := by
  cases condition <;> rfl

theorem expected_plain
    (condition : Condition) :
    condition.plain.expected = condition.expected.plain := by
  cases condition <;> rfl

theorem plain_eq_self
    (condition : Condition)
    (finite : condition.expected.toValue.isFinite = true) :
    condition.plain = condition := by
  cases condition with
  | equality negated expected =>
      rw [plain, Scalar.plain_eq_self finite]
  | pattern negated source =>
      rfl
  | ordering order bound =>
      rw [plain, Scalar.plain_eq_self finite]
  | membership negated items =>
      have each := Value.areFinite_iff.mp finite
      have same : items.map Scalar.plain = items :=
        map_eq_self fun item member =>
          Scalar.plain_eq_self
            (each (.scalar item) (List.mem_map_of_mem member))
      rw [plain, same]
  | presence negated =>
      rfl

/-- The operator tells what kind of value was written. -/
theorem ofParts_written
    (condition : Condition) :
    ofParts condition.operator
        (if condition.expected = .nothing then .scalar .null else condition.expected) =
      .ok condition := by
  cases condition <;> rfl

end Condition

namespace Rule

/-- A rule with `null` for numbers that are not finite. -/
def plain (rule : Rule) : Rule :=
  { rule with condition := rule.condition.plain }

/-- A rule that expects no number that is not finite is written as it is. -/
theorem plain_eq_self
    {rule : Rule}
    (finite : rule.condition.expected.toValue.isFinite = true) :
    rule.plain = rule := by
  have condition : rule.condition.plain = rule.condition :=
    rule.condition.plain_eq_self finite
  unfold plain
  rw [condition]

theorem toPlain_plain
    (rule : Rule) :
    rule.plain.toPlain = rule.toPlain := by
  simp only [toPlain, plain, Condition.operator_plain, Condition.expected_plain,
    Expected.toValue_plain, Value.plain_plain]

/-- What a rule is read from, field by field. -/
structure ReadFrom
    (rule : Rule)
    (supply : IdSupply)
    (entries : Entries) :
    Prop where
  id :
    Schema.withDefault entries "id" (supply.id 0) Schema.identifier =
      .valid rule.id
  path :
    Schema.required entries "fact_path" readPath = .valid rule.path
  condition :
    ∃ operator expected,
      Schema.required entries "operator" readOperator = .valid operator ∧
        Schema.withDefault entries "value" .nothing readExpected =
          .valid expected ∧
        Condition.ofParts operator expected = .ok rule.condition

variable {rule : Rule} {supply : IdSupply} {document : Value}

/-- A rule is read from a record exactly if each of its parts is. -/
theorem read_eq_valid_iff :
    read supply document = .valid rule ↔
      ∃ entries, document = .map entries ∧ rule.ReadFrom supply entries := by
  constructor
  · intro isRead
    obtain ⟨entries, isRecord, partsRead⟩ :=
      Checked.andThen_eq_valid_iff.mp isRead
    obtain ⟨_, made, fits⟩ := Checked.andThen_eq_valid_iff.mp partsRead
    simp only [Checked.seq_eq_valid_iff, Checked.functor_map_eq_valid_iff]
      at made
    obtain ⟨_, expected, ⟨_, operator, ⟨_, path, ⟨id, idRead, rfl⟩,
      pathRead, rfl⟩, operatorRead, rfl⟩, expectedRead, rfl⟩ := made
    obtain ⟨condition, conditionFits, rfl⟩ := Checked.map_eq_valid_iff.mp fits
    exact ⟨entries, Schema.record_eq_valid_iff.mp isRecord, idRead, pathRead,
      operator, expected, operatorRead, expectedRead,
      Checked.ofExcept_eq_valid_iff.mp conditionFits⟩
  · rintro ⟨entries, rfl, idRead, pathRead, operator, expected, operatorRead,
      expectedRead, fits⟩
    unfold read
    rw [Schema.record_eq_valid_iff.mpr rfl, Checked.andThen_valid]
    dsimp only
    rw [idRead, pathRead, operatorRead, expectedRead]
    change ofParts rule.id rule.path operator expected = .valid rule
    unfold ofParts
    rw [Checked.ofExcept_eq_valid_iff.mpr fits]
    rfl

theorem readPath_text
    {text : String}
    {path : FactPath} :
    readPath (.text text) = .valid path ↔ Text.strip text = path.text := by
  have isText : Schema.text (.text text) = .valid text := rfl
  unfold readPath
  rw [isText, Checked.andThen_valid, Checked.ofExcept_eq_valid_iff,
    FactPath.parse_eq_ok_iff]

theorem readOperator_name
    (operator : Operator) :
    readOperator (.text operator.name) = .valid operator :=
  Checked.ofExcept_eq_valid_iff.mpr operator.read_name

theorem readExpected_toValue
    (expected : Expected) :
    readExpected expected.toValue =
      .valid (if expected = .nothing then .scalar .null else expected) :=
  Checked.ofExcept_eq_valid_iff.mpr expected.ofValue_toValue

/-- A rule without blanks around its path is read again from what it was written as. -/
theorem read_toPlain
    (trimmed : Text.strip rule.path.text = rule.path.text)
    (supply : IdSupply) :
    read supply rule.toPlain = .valid rule.plain := by
  have fits := rule.condition.plain.ofParts_written
  rw [Condition.operator_plain, Condition.expected_plain] at fits
  have expected := readExpected_toValue rule.condition.expected.plain
  rw [Expected.toValue_plain] at expected
  refine read_eq_valid_iff.mpr
    ⟨_, rfl, ?_, ?_, rule.condition.operator, _, ?_, ?_, fits⟩
  · exact Schema.withDefault_ofFields rfl rfl
  · exact Schema.required_ofFields rfl (readPath_text.mpr trimmed)
  · exact Schema.required_ofFields rfl (readOperator_name _)
  · exact Schema.withDefault_ofFields rfl expected

/-- What was read has no blanks around its path. -/
theorem trimmed_of_read
    (isRead : read supply document = .valid rule) :
    Text.strip rule.path.text = rule.path.text := by
  obtain ⟨entries, _, reads⟩ := read_eq_valid_iff.mp isRead
  obtain ⟨written, _, pathRead⟩ := Schema.required_eq_valid_iff.mp reads.path
  obtain ⟨text, _, parsed⟩ := Checked.andThen_eq_valid_iff.mp pathRead
  have stripped :=
    FactPath.parse_eq_ok_iff.mp (Checked.ofExcept_eq_valid_iff.mp parsed)
  rw [← stripped, Text.strip_strip]

theorem idsTaken_map
    (entries : Entries) :
    idsTaken (.map entries) =
      if (entries.find? (.text "id")).isSome then 0 else 1 := by
  unfold idsTaken
  dsimp only
  cases entries.find? (.text "id") <;> rfl

/-- A rule takes one identifier at most. -/
theorem idsTaken_le_one
    (document : Value) :
    idsTaken document ≤ 1 := by
  cases document with
  | map entries =>
      rw [idsTaken_map]
      split <;> omega
  | scalar value =>
      exact Nat.zero_le 1
  | list items =>
      exact Nat.zero_le 1

/-- A rule is read the same if the supplies agree on the identifier that it takes. -/
theorem read_congr
    {other : IdSupply}
    (agree : supply.AgreeFor other (idsTaken document)) :
    read supply document = read other document := by
  cases document with
  | map entries =>
      rw [idsTaken_map] at agree
      have id :
          Schema.withDefault entries "id" (supply.id 0) Schema.identifier =
            Schema.withDefault entries "id" (other.id 0) Schema.identifier := by
        unfold Schema.withDefault
        cases found : Entries.find? entries (.text "id") with
        | some written =>
            rfl
        | none =>
            rw [found] at agree
            exact congrArg Checked.valid (agree 0 Nat.one_pos)
      unfold read
      rw [Schema.record_eq_valid_iff.mpr rfl, Checked.andThen_valid,
        Checked.andThen_valid, id]
  | scalar value =>
      rfl
  | list items =>
      rfl

/-- A rule that takes an identifier has the next one. -/
theorem id_of_read
    (taken : idsTaken document ≠ 0)
    (isRead : read supply document = .valid rule) :
    rule.id = supply.id 0 := by
  obtain ⟨entries, rfl, reads⟩ := read_eq_valid_iff.mp isRead
  rw [idsTaken_map] at taken
  rcases Schema.withDefault_eq_valid_iff.mp reads.id with
      ⟨written, found, _⟩ | ⟨_, same⟩
  · simp [found] at taken
  · exact same.symm

theorem readFrom_eq_suppliedItems
    (supply : IdSupply)
    (position : Nat)
    (documents : List Value) :
    readFrom supply position documents =
      Schema.suppliedItems read idsTaken supply position documents := by
  induction documents generalizing supply position with
  | nil =>
      rfl
  | cons document rest inductionHypothesis =>
      rw [readFrom, inductionHypothesis]
      rfl

/-- Rules are read from a list one after the other. -/
theorem readList_eq_suppliedList :
    readList = Schema.suppliedList read idsTaken := by
  funext supply document
  simp only [readList, Schema.suppliedList, readFrom_eq_suppliedItems]

end Rule

end FleetConfig
