import FleetConfig.Proofs.Group.Set
import FleetConfig.Proofs.Rule.Definition

/-!
# What is known of a group that was read

An accepted record gives a group whose classes stand as they were written, whose
pinned nodes are those that were written, put in order, and whose rules, one for each
record of a rule, can be evaluated without another look at whether their parts fit.
-/

namespace FleetConfig

/-- A field that has a default is read as its default is, or from what was written. -/
theorem Schema.read_getD_of_withDefault
    {α : Type}
    {entries : Entries}
    {name : String}
    {default value : α}
    {read : Value → Checked α}
    (written : Value)
    (isRead : withDefault entries name default read = .valid value)
    (ofDefault : read written = .valid default) :
    read ((entries.find? (.text name)).getD written) = .valid value := by
  rcases withDefault_eq_valid_iff.mp isRead with
      ⟨document, found, valid⟩ | ⟨missing, rfl⟩
  · rw [found]
    exact valid
  · rw [missing]
    exact ofDefault

/-- Texts are read in turn from themselves. -/
theorem Schema.ReadInTurn.eq_map_text
    {taken : Value → Nat}
    {supply : IdSupply}
    {documents : List Value}
    {texts : List String}
    (inTurn : ReadInTurn (fun _ => text) taken supply documents texts) :
    documents = texts.map .text := by
  induction inTurn with
  | nil =>
      rfl
  | cons first _ inductionHypothesis =>
      rw [text_eq_valid_iff.mp first, inductionHypothesis, List.map_cons]

/-- Texts are read from the list of them, and from no other value. -/
theorem Schema.list_text_eq_valid_iff
    {document : Value}
    {found : List String} :
    list text document = .valid found ↔ document = .texts found := by
  constructor
  · intro isRead
    obtain ⟨documents, rfl, inTurn⟩ := list_eq_valid_iff.mp isRead
    exact congrArg Value.list inTurn.eq_map_text
  · rintro rfl
    exact list_text_texts found

namespace Group

/-- What is known of a group that was read from the fields of a record. -/
structure MadeFrom
    (group : Group)
    (entries : Entries) : Prop
    extends group.WellFormed where
  writtenName :
    ∃ name,
      (entries.find? (.text "name")).getD (.text "") = .text name ∧
        group.name = if name.isEmpty then group.id else name
  writtenEnvironment :
    ∀ environment,
      group.environment? = some environment ↔
        entries.find? (.text "environment") = some (.text environment) ∧
          Text.isAllBlank environment = false
  writtenClasses :
    (entries.find? (.text "classes")).getD (.texts []) = .texts group.classes
  writtenNodes :
    ∃ written,
      (entries.find? (.text "pinned_nodes")).getD (.texts []) = .texts written ∧
        ∀ certname, certname ∈ group.pinnedNodes ↔ certname ∈ written
  writtenRules :
    ∃ written,
      (entries.find? (.text "rules")).getD (.list []) = .list written ∧
        List.Forall₂
          (fun rule document =>
            ∃ fields, document = .map fields ∧ rule.MadeFrom fields)
          group.rules written

variable {supply : IdSupply} {document : Value} {group : Group}

theorem readEnvironment_eq_some_iff
    {environment? : Option String}
    (isRead : readEnvironment document = .valid environment?)
    (environment : String) :
    environment? = some environment ↔
      document = .text environment ∧ Text.isAllBlank environment = false := by
  obtain ⟨read?, optional, rfl⟩ := Checked.map_eq_valid_iff.mp isRead
  rw [Option.filter_eq_some_iff, Bool.not_eq_true']
  unfold Schema.optional at optional
  split at optional
  · cases optional
    simp [Value.text]
  · obtain ⟨text, isText, rfl⟩ := Checked.map_eq_valid_iff.mp optional
    rw [Schema.text_eq_valid_iff.mp isText]
    simp [Value.text]

/-- Rules are read one for each record. -/
theorem forall₂_madeFrom
    {documents : List Value}
    {rules : List Rule}
    (inTurn :
      Schema.ReadInTurn Rule.read Rule.idsTaken supply documents rules) :
    List.Forall₂
      (fun rule document =>
        ∃ fields, document = .map fields ∧ rule.MadeFrom fields)
      rules documents := by
  induction inTurn with
  | nil =>
      exact .nil
  | cons first _ inductionHypothesis =>
      exact .cons (Rule.exists_madeFrom first) inductionHypothesis

/--
An accepted record gives a well-formed group: its classes stand as they were written,
its pinned nodes are those that were written, a blank environment is none, and each
of its rules has a path that leads nowhere else than to a fact or to none, a value of
the kind that its operator needs, and an evaluation that goes right without checks.
-/
theorem read_madeFrom
    (isRead : read supply document = .valid group) :
    ∃ entries, document = .map entries ∧ group.MadeFrom entries := by
  obtain ⟨entries, isRecord, reads⟩ := read_eq_valid_iff.mp isRead
  refine ⟨entries, isRecord,
    { wellFormed_of_read isRead with
      writtenName := ?writtenName
      writtenEnvironment := ?writtenEnvironment
      writtenClasses := ?writtenClasses
      writtenNodes := ?writtenNodes
      writtenRules := ?writtenRules }⟩
  case writtenName =>
    obtain ⟨name, nameRead, named⟩ := reads.name
    have isText := Schema.read_getD_of_withDefault (.text "") nameRead rfl
    exact ⟨name, Schema.text_eq_valid_iff.mp isText, named⟩
  case writtenEnvironment =>
    intro environment
    rcases Schema.withDefault_eq_valid_iff.mp reads.environment with
        ⟨written, found, valid⟩ | ⟨missing, isDefault⟩
    · rw [found, readEnvironment_eq_some_iff valid, Option.some.injEq]
    · simp [missing, ← isDefault]
  case writtenClasses =>
    have areRead := Schema.read_getD_of_withDefault (.texts []) reads.classes rfl
    exact Schema.list_text_eq_valid_iff.mp (readClasses_eq_valid_iff.mp areRead).1
  case writtenNodes =>
    have areRead := Schema.read_getD_of_withDefault (.texts []) reads.pinnedNodes
      (readPinnedNodes_texts .nil)
    obtain ⟨written, areTexts, sorted⟩ := Checked.map_eq_valid_iff.mp areRead
    refine ⟨written, Schema.list_text_eq_valid_iff.mp areTexts, fun certname => ?_⟩
    rw [← sorted, Text.mem_distinctAscending]
  case writtenRules =>
    have areRead := Schema.read_getD_of_withDefault (.list []) reads.rules rfl
    rw [Rule.readList_eq_suppliedList] at areRead
    obtain ⟨written, isList, inTurn⟩ :=
      Schema.suppliedList_eq_valid_iff.mp areRead
    exact ⟨written, isList, forall₂_madeFrom inTurn⟩

end Group

namespace Sample

/-- A group as it may stand in a file, with pinned nodes out of order. -/
def untidyDefinition : Value :=
  .ofFields
    [("id", .integer 7),
      ("environment", .text " "),
      ("rules", .list ruleDefinitions),
      ("pinned_nodes", .texts ["b", "a", "b"]),
      ("classes", .texts ["ntp", "apt"])]

/-- The group that is defined. -/
def untidyGroup : Group :=
  { definedGroup with classes := ["ntp", "apt"], parameters := [] }

theorem read_untidyDefinition :
    Group.read (.numbered 0) untidyDefinition = .valid untidyGroup :=
  Group.read_eq_valid_iff.mpr ⟨_, rfl,
    { id := rfl
      name := ⟨"", rfl, rfl⟩
      description := rfl
      parent := rfl
      environment := rfl
      assignsEnvironment := rfl
      matchesAllNodes := rfl
      matchType := rfl
      rules := rfl
      pinnedNodes := Schema.withDefault_ofFields rfl (by cbv)
      classes := rfl
      parameters := rfl
      globals := rfl
      ruleIds := by decide }⟩

end Sample

/-- The nodes are put in order, the classes stay as they are, and the first path is trimmed. -/
theorem Group.read_madeFrom_untidy :
    Group.read (.numbered 0) Sample.untidyDefinition = .valid Sample.untidyGroup ∧
      ∃ entries,
        Sample.untidyDefinition = .map entries ∧
          Sample.untidyGroup.MadeFrom entries ∧
          Sample.untidyGroup.pinnedNodes = ["a", "b"] ∧
          Sample.untidyGroup.rules.map (·.path.text) = ["os.family", "os"] := by
  obtain ⟨entries, isRecord, made⟩ :=
    Group.read_madeFrom Sample.read_untidyDefinition
  exact ⟨Sample.read_untidyDefinition, entries, isRecord, made, rfl, rfl⟩

end FleetConfig
