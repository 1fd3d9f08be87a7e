import FleetConfig.Group.Set
import FleetConfig.Proofs.Rule.Reading
import FleetConfig.Proofs.Text.Order

/-!
# What a group is read from

A group is read from a record field by field, and what was read is well formed:
it has a name if it has an identifier, its environment is not blank, its pinned
nodes ascend, and no class and no identifier of a rule stands twice.  A well-formed
group is read again from what it is written as, with `null` for the numbers in it
that are not finite.
-/

namespace FleetConfig

/-- The search for a repeated text fails if no text stands twice. -/
theorem Text.firstRepeated?_eq_none_iff
    {seen texts : List String} :
    Text.firstRepeated? seen texts = none ↔
      (∀ text ∈ texts, text ∉ seen) ∧ texts.Nodup := by
  induction texts generalizing seen with
  | nil =>
      simp [Text.firstRepeated?]
  | cons text rest inductionHypothesis =>
      rw [Text.firstRepeated?]
      by_cases isSeen : text ∈ seen
      · simp [isSeen]
      · simp only [List.contains_eq_mem, isSeen, decide_false,
          Bool.false_eq_true, ↓reduceIte, inductionHypothesis, List.mem_cons,
          not_or, List.nodup_cons]
        constructor
        · rintro ⟨apart, distinct⟩
          refine ⟨?_, fun member => (apart text member).1 rfl, distinct⟩
          rintro other (rfl | member)
          · exact isSeen
          · exact (apart other member).2
        · rintro ⟨unseen, fresh, distinct⟩
          refine ⟨fun other member => ⟨?_, unseen other (.inr member)⟩, distinct⟩
          rintro rfl
          exact fresh member

/-- Where no text stands twice no text is dropped. -/
theorem Text.dropRepeats_of_nodup
    {texts : List String}
    (distinct : texts.Nodup) :
    Text.dropRepeats texts = texts := by
  fun_induction Text.dropRepeats texts with
  | case1 =>
      rfl
  | case2 =>
      rfl
  | case3 first rest =>
      simp at distinct
  | case4 first second rest different inductionHypothesis =>
      rw [inductionHypothesis distinct.of_cons]

/-- A way to combine rules is read from its name. -/
theorem RuleMatchType.read_name
    (matchType : RuleMatchType) :
    RuleMatchType.read matchType.name = .ok matchType := by
  cases matchType <;> rfl

namespace Group

/-- A group with `null` for numbers that are not finite. -/
def plain (group : Group) : Group :=
  { group with
    rules := group.rules.map Rule.plain
    parameters := Value.plainFields group.parameters
    globals := Value.plainFields group.globals }

/-- What a group is read from, field by field. -/
structure ReadFrom
    (group : Group)
    (supply : IdSupply)
    (entries : Entries) :
    Prop where
  id :
    Schema.required entries "id" Schema.identifier = .valid group.id
  name :
    ∃ name,
      Schema.withDefault entries "name" "" Schema.text = .valid name ∧
        group.name = if name.isEmpty then group.id else name
  description :
    Schema.withDefault entries "description" "" Schema.text =
      .valid group.description
  parent :
    Schema.withDefault entries "parent_id" none
        (Schema.optional Schema.identifier) =
      .valid group.parent?
  environment :
    Schema.withDefault entries "environment" none readEnvironment =
      .valid group.environment?
  assignsEnvironment :
    Schema.withDefault entries "is_environment_group" false Schema.flag =
      .valid group.assignsEnvironment
  matchesAllNodes :
    Schema.withDefault entries "match_all_nodes" false Schema.flag =
      .valid group.matchesAllNodes
  matchType :
    Schema.withDefault entries "rule_match_type" .all readMatchType =
      .valid group.matchType
  rules :
    Schema.withDefault entries "rules" [] (Rule.readList supply) =
      .valid group.rules
  pinnedNodes :
    Schema.withDefault entries "pinned_nodes" [] readPinnedNodes =
      .valid group.pinnedNodes
  classes :
    Schema.withDefault entries "classes" [] readClasses = .valid group.classes
  parameters :
    Schema.withDefault entries "parameters" [] Schema.fields =
      .valid group.parameters
  globals :
    Schema.withDefault entries "variables" [] Schema.fields =
      .valid group.globals
  ruleIds :
    (group.rules.map (·.id)).Nodup

variable {group : Group} {supply : IdSupply} {document : Value}

theorem complete_eq_valid_iff
    {unnamed : Group} :
    complete unnamed = .valid group ↔
      (unnamed.rules.map (·.id)).Nodup ∧
        { unnamed with
          name := if unnamed.name.isEmpty then unnamed.id else unnamed.name } =
          group := by
  unfold complete
  cases repeated : Text.firstRepeated? [] (unnamed.rules.map (·.id)) with
  | some rule =>
      have notDistinct : ¬ (unnamed.rules.map (·.id)).Nodup := by
        intro distinct
        have none := Text.firstRepeated?_eq_none_iff.mpr
          ⟨fun text _ => List.not_mem_nil, distinct⟩
        rw [repeated] at none
        contradiction
      simp [notDistinct]
  | none =>
      have distinct := (Text.firstRepeated?_eq_none_iff.mp repeated).2
      simp [distinct]

/-- A group is read from a record exactly if each of its parts is. -/
theorem read_eq_valid_iff :
    read supply document = .valid group ↔
      ∃ entries, document = .map entries ∧ group.ReadFrom supply entries := by
  constructor
  · intro isRead
    obtain ⟨entries, isRecord, partsRead⟩ :=
      Checked.andThen_eq_valid_iff.mp isRead
    obtain ⟨unnamed, made, completed⟩ :=
      Checked.andThen_eq_valid_iff.mp partsRead
    simp only [Checked.seq_eq_valid_iff, Checked.functor_map_eq_valid_iff]
      at made
    obtain ⟨_, globals, ⟨_, parameters, ⟨_, classes, ⟨_, pinnedNodes, ⟨_, rules,
      ⟨_, matchType, ⟨_, matchesAllNodes, ⟨_, assignsEnvironment,
      ⟨_, environment?, ⟨_, parent?, ⟨_, description, ⟨_, name, ⟨id, idRead, rfl⟩,
      nameRead, rfl⟩, descriptionRead, rfl⟩, parentRead, rfl⟩,
      environmentRead, rfl⟩, assignsRead, rfl⟩, matchesRead, rfl⟩,
      matchTypeRead, rfl⟩, rulesRead, rfl⟩, pinnedRead, rfl⟩, classesRead, rfl⟩,
      parametersRead, rfl⟩, globalsRead, rfl⟩ := made
    obtain ⟨distinct, rfl⟩ := complete_eq_valid_iff.mp completed
    exact ⟨entries, Schema.record_eq_valid_iff.mp isRecord,
      { id := idRead
        name := ⟨name, nameRead, rfl⟩
        description := descriptionRead
        parent := parentRead
        environment := environmentRead
        assignsEnvironment := assignsRead
        matchesAllNodes := matchesRead
        matchType := matchTypeRead
        rules := rulesRead
        pinnedNodes := pinnedRead
        classes := classesRead
        parameters := parametersRead
        globals := globalsRead
        ruleIds := distinct }⟩
  · rintro ⟨entries, rfl, reads⟩
    obtain ⟨name, nameRead, named⟩ := reads.name
    unfold read
    rw [Schema.record_eq_valid_iff.mpr rfl, Checked.andThen_valid]
    dsimp only
    rw [reads.id, nameRead, reads.description, reads.parent, reads.environment,
      reads.assignsEnvironment, reads.matchesAllNodes, reads.matchType,
      reads.rules, reads.pinnedNodes, reads.classes, reads.parameters,
      reads.globals]
    change complete { group with name := name } = .valid group
    refine complete_eq_valid_iff.mpr ⟨reads.ruleIds, ?_⟩
    dsimp only
    rw [← named]

/-- What every group that was read has in common. -/
structure WellFormed (group : Group) : Prop where
  named : group.name.isEmpty = true → group.id.isEmpty = true
  environment :
    ∀ environment ∈ group.environment?, Text.isAllBlank environment = false
  paths : ∀ rule ∈ group.rules, Text.strip rule.path.text = rule.path.text
  ruleIds : (group.rules.map (·.id)).Nodup
  pinnedNodes : Text.StrictlyAscending group.pinnedNodes
  classes : group.classes.Nodup

theorem readClasses_eq_valid_iff
    {classes : List String} :
    readClasses document = .valid classes ↔
      Schema.list Schema.text document = .valid classes ∧ classes.Nodup := by
  unfold readClasses
  rw [Checked.andThen_eq_valid_iff]
  constructor
  · rintro ⟨read, isRead, checked⟩
    split at checked
    case h_1 =>
      exact absurd checked Checked.defective_ne_valid
    case h_2 noneRepeated =>
      cases checked
      exact ⟨isRead, (Text.firstRepeated?_eq_none_iff.mp noneRepeated).2⟩
  · rintro ⟨isRead, distinct⟩
    refine ⟨classes, isRead, ?_⟩
    rw [Text.firstRepeated?_eq_none_iff.mpr
      ⟨fun text _ => List.not_mem_nil, distinct⟩]

theorem readEnvironment_optionalText
    {environment? : Option String}
    (notBlank :
      ∀ environment ∈ environment?, Text.isAllBlank environment = false) :
    readEnvironment (.optionalText environment?) = .valid environment? := by
  unfold readEnvironment
  rw [Schema.optional_optionalText fun _ => rfl, Checked.map_valid]
  cases environment? with
  | some environment =>
      simp [notBlank environment rfl]
  | none =>
      rfl

/-- What was read is well formed. -/
theorem wellFormed_of_read
    (isRead : read supply document = .valid group) :
    group.WellFormed := by
  obtain ⟨entries, _, reads⟩ := read_eq_valid_iff.mp isRead
  constructor
  case named =>
    obtain ⟨name, _, named⟩ := reads.name
    intro isEmpty
    rw [named] at isEmpty
    by_cases unnamed : name.isEmpty
    · simpa [unnamed] using isEmpty
    · simp [unnamed] at isEmpty
  case environment =>
    refine Schema.of_withDefault reads.environment ?_ nofun
    intro document _ valid environment isSome
    obtain ⟨read, _, kept⟩ := Checked.map_eq_valid_iff.mp valid
    rw [← kept, Option.mem_def, Option.filter_eq_some_iff] at isSome
    simpa using isSome.2
  case paths =>
    refine Schema.of_withDefault reads.rules ?_ nofun
    intro document _ valid rule member
    rw [Rule.readList_eq_suppliedList] at valid
    obtain ⟨documents, _, inTurn⟩ :=
      Schema.suppliedList_eq_valid_iff.mp valid
    obtain ⟨_, _, _, ruleRead⟩ := inTurn.exists_of_mem member
    exact Rule.trimmed_of_read ruleRead
  case ruleIds =>
    exact reads.ruleIds
  case pinnedNodes =>
    refine Schema.of_withDefault reads.pinnedNodes ?_ .nil
    intro document _ valid
    obtain ⟨nodes, _, sorted⟩ := Checked.map_eq_valid_iff.mp valid
    rw [← sorted]
    exact Text.distinctAscending_strictlyAscending nodes
  case classes =>
    exact Schema.of_withDefault reads.classes
      (fun _ _ valid => (readClasses_eq_valid_iff.mp valid).2) .nil

theorem readMatchType_name
    (matchType : RuleMatchType) :
    readMatchType (.text matchType.name) = .valid matchType := by
  have isName :
      readMatchType (.text matchType.name) =
        .ofExcept .unknownMatchType (RuleMatchType.read matchType.name) :=
    rfl
  rw [isName, matchType.read_name]
  rfl

theorem readPinnedNodes_texts
    {nodes : List String}
    (ascending : Text.StrictlyAscending nodes) :
    readPinnedNodes (.texts nodes) = .valid nodes := by
  have sorted : Text.distinctAscending nodes = nodes := by
    unfold Text.distinctAscending
    rw [ascending.ascending_eq, Text.dropRepeats_of_nodup ascending.nodup]
  unfold readPinnedNodes
  rw [Schema.list_text_texts, Checked.map_valid, sorted]

/-- A well-formed group is read again from what was written, whatever the supply. -/
theorem read_toPlain
    (wellFormed : group.WellFormed)
    (supply : IdSupply) :
    read supply group.toPlain = .valid group.plain := by
  refine read_eq_valid_iff.mpr ⟨_, rfl, ?_⟩
  constructor
  case id =>
    exact Schema.required_ofFields rfl rfl
  case name =>
    refine ⟨group.name, Schema.withDefault_ofFields rfl rfl, ?_⟩
    change group.name = if group.name.isEmpty then group.id else group.name
    -- An empty name is read as the identifier, which is empty as well.
    by_cases unnamed : group.name.isEmpty
    · have noId := wellFormed.named unnamed
      rw [String.isEmpty_iff] at unnamed noId
      rw [unnamed, noId]
      rfl
    · rw [if_neg unnamed]
  case description =>
    exact Schema.withDefault_ofFields rfl rfl
  case parent =>
    exact Schema.withDefault_ofFields rfl
      (Schema.optional_optionalText (fun _ => rfl) group.parent?)
  case environment =>
    exact Schema.withDefault_ofFields rfl
      (readEnvironment_optionalText wellFormed.environment)
  case assignsEnvironment =>
    exact Schema.withDefault_ofFields rfl rfl
  case matchesAllNodes =>
    exact Schema.withDefault_ofFields rfl rfl
  case matchType =>
    exact Schema.withDefault_ofFields rfl (readMatchType_name group.matchType)
  case rules =>
    rw [Rule.readList_eq_suppliedList]
    refine Schema.withDefault_ofFields rfl
      (Schema.suppliedList_eq_valid_iff.mpr
        ⟨group.rules.map Rule.toPlain, rfl, .map ?_⟩)
    exact fun rule member => Rule.read_toPlain (wellFormed.paths rule member)
  case pinnedNodes =>
    exact Schema.withDefault_ofFields rfl
      (readPinnedNodes_texts wellFormed.pinnedNodes)
  case classes =>
    exact Schema.withDefault_ofFields rfl (readClasses_eq_valid_iff.mpr
      ⟨Schema.list_text_texts _, wellFormed.classes⟩)
  case parameters =>
    exact Schema.withDefault_ofFields rfl (Schema.fields_eq_valid_iff.mpr rfl)
  case globals =>
    exact Schema.withDefault_ofFields rfl (Schema.fields_eq_valid_iff.mpr rfl)
  case ruleIds =>
    change ((group.rules.map Rule.plain).map (·.id)).Nodup
    rw [List.map_map]
    exact wellFormed.ruleIds

/-- The payload of a group is JSON. -/
structure IsJson (group : Group) : Prop where
  parameters : (Value.ofFields group.parameters).IsJson
  globals : (Value.ofFields group.globals).IsJson

/-- Neither the rules of a group nor its payload hold a number that is not finite. -/
structure IsFinite (group : Group) : Prop where
  rules :
    ∀ rule ∈ group.rules, rule.condition.expected.toValue.isFinite = true
  parameters : (Value.ofFields group.parameters).isFinite = true
  globals : (Value.ofFields group.globals).isFinite = true

/-- No key stands twice in any map of the payload of a group. -/
structure WellKeyed (group : Group) : Prop where
  parameters : (Value.ofFields group.parameters).WellKeyed
  globals : (Value.ofFields group.globals).WellKeyed

/-- What was read from a document without repeated keys has none in its payload. -/
theorem wellKeyed_of_read
    (wellKeyed : document.WellKeyed)
    (isRead : read supply document = .valid group) :
    group.WellKeyed := by
  obtain ⟨entries, rfl, reads⟩ := read_eq_valid_iff.mp isRead
  have payload :
      ∀ {name : String} {fields : Fields},
        Schema.withDefault entries name [] Schema.fields = .valid fields →
        (Value.ofFields fields).WellKeyed := by
    intro name fields fieldsRead
    refine Schema.of_withDefault fieldsRead ?_ (.map .nil nofun)
    intro written found valid
    rw [← Schema.fields_eq_valid_iff.mp valid]
    exact wellKeyed.find? found
  exact ⟨payload reads.parameters, payload reads.globals⟩

theorem WellKeyed.isJson
    (wellKeyed : group.WellKeyed)
    (textKeys : group.HasTextKeys) :
    group.IsJson :=
  ⟨wellKeyed.parameters.isJson
      (Value.hasTextKeys_ofFields_iff.mpr textKeys.parameters),
    wellKeyed.globals.isJson
      (Value.hasTextKeys_ofFields_iff.mpr textKeys.globals)⟩

/-- A group with a JSON payload and finite numbers only is written as it is. -/
theorem IsJson.plain_eq_self
    (isJson : group.IsJson)
    (finite : group.IsFinite) :
    group.plain = group := by
  have rules : group.rules.map Rule.plain = group.rules :=
    map_eq_self fun rule member =>
      Rule.plain_eq_self (finite.rules rule member)
  have parameters :=
    isJson.parameters.plainFields_eq_self finite.parameters
  have globals := isJson.globals.plainFields_eq_self finite.globals
  unfold plain
  rw [rules, parameters, globals]

theorem map_plain_eq_self
    {groups : List Group}
    (isJson : ∀ group ∈ groups, group.IsJson)
    (finite : ∀ group ∈ groups, group.IsFinite) :
    groups.map plain = groups :=
  map_eq_self fun group member =>
    (isJson group member).plain_eq_self (finite group member)

theorem readFrom_eq_suppliedItems
    (supply : IdSupply)
    (position : Nat)
    (documents : List Value) :
    readFrom supply position documents =
      Schema.suppliedItems read idsTaken supply position documents := by
  induction documents generalizing supply position with
  | nil =>
      rfl
  | cons document rest inductionHypothesis =>
      rw [readFrom, inductionHypothesis]
      rfl

/-- Groups are read from a list one after the other. -/
theorem readList_eq_suppliedList :
    readList = Schema.suppliedList read idsTaken := by
  funext supply document
  simp only [readList, Schema.suppliedList, readFrom_eq_suppliedItems]

/-- The rules of a group take its identifiers. -/
theorem idsTaken_eq_takenByField :
    idsTaken = Schema.takenByField Rule.idsTaken "rules" := by
  funext document
  rw [Schema.takenByField_eq]
  rfl

/-- A group is read the same if the supplies agree on the identifiers that it takes. -/
theorem read_congr
    {other : IdSupply}
    (agree : supply.AgreeFor other (idsTaken document)) :
    read supply document = read other document := by
  cases document with
  | map entries =>
      rw [idsTaken_eq_takenByField] at agree
      have rules :
          Schema.withDefault entries "rules" [] (Rule.readList supply) =
            Schema.withDefault entries "rules" [] (Rule.readList other) := by
        rw [Rule.readList_eq_suppliedList]
        exact Schema.withDefault_suppliedList_congr Rule.read_congr agree
      unfold read
      rw [Schema.record_eq_valid_iff.mpr rfl, Checked.andThen_valid,
        Checked.andThen_valid]
      dsimp only
      rw [rules]
  | scalar value =>
      rfl
  | list items =>
      rfl

end Group

end FleetConfig
