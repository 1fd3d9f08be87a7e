import FleetConfig.Proofs.Group.Version

/-!
# Identifiers of rules in versions

A rule without an identifier is given one from a supply.  The version that a group
set gets from its groups covers that identifier, so that one document gives one
version whatever the supply is exactly if each of its rules has an identifier of its
own.
-/

namespace FleetConfig

/-- Rules that are the same up to numbers that are not finite were given the same identifier. -/
theorem Rule.agreeFor_of_read
    {document : Value}
    {supply other : IdSupply}
    {rule again : Rule}
    (isRead : Rule.read supply document = .valid rule)
    (readAgain : Rule.read other document = .valid again)
    (same : rule.plain = again.plain) :
    supply.AgreeFor other (Rule.idsTaken document) := by
  have single := Rule.idsTaken_le_one document
  intro turn below
  obtain rfl : turn = 0 := by
    omega
  have taken : Rule.idsTaken document ≠ 0 :=
    Nat.ne_zero_of_lt below
  have sameId : rule.plain.id = again.plain.id := congrArg Rule.id same
  calc
    supply.id 0 = rule.id := (Rule.id_of_read taken isRead).symm
    _ = again.id := sameId
    _ = other.id 0 := Rule.id_of_read taken readAgain

/-- If a group is read twice as the same group, its rules were given the same identifiers. -/
theorem Group.agreeFor_of_read
    {document : Value}
    {supply other : IdSupply}
    {group again : Group}
    (isRead : Group.read supply document = .valid group)
    (readAgain : Group.read other document = .valid again)
    (same : group.plain.Same again.plain) :
    supply.AgreeFor other (Group.idsTaken document) := by
  obtain ⟨entries, rfl, reads⟩ := Group.read_eq_valid_iff.mp isRead
  obtain ⟨_, ⟨⟩, readsAgain⟩ := Group.read_eq_valid_iff.mp readAgain
  have rules := reads.rules
  have rulesAgain := readsAgain.rules
  rw [Rule.readList_eq_suppliedList] at rules rulesAgain
  rw [Group.idsTaken_eq_takenByField]
  exact Schema.agreeFor_of_withDefault Rule.agreeFor_of_read rules rulesAgain
    (forall₂_map_eq_iff.mpr same.rules)

namespace GroupSet

variable {document : Value} {groupSet again : GroupSet} {supply other : IdSupply}

theorem agreeFor_of_read
    (isRead : read supply document = .valid groupSet)
    (readAgain : read other document = .valid again)
    (same :
      List.Forall₂ Group.Same (groupSet.groups.map Group.plain)
        (again.groups.map Group.plain)) :
    supply.AgreeFor other (idsTaken document) := by
  obtain ⟨entries, groups, _, rfl, groupsRead, _, rfl⟩ :=
    read_eq_valid_iff.mp isRead
  obtain ⟨_, groupsAgain, _, ⟨⟩, groupsReadAgain, _, rfl⟩ :=
    read_eq_valid_iff.mp readAgain
  rw [Group.readList_eq_suppliedList] at groupsRead groupsReadAgain
  rw [List.forall₂_map_left_iff, List.forall₂_map_right_iff] at same
  rw [idsTaken_eq_takenByField]
  exact Schema.agreeFor_of_withDefault Group.agreeFor_of_read groupsRead
    groupsReadAgain same

/--
Two readings of one document have the same version exactly if the rules without an
identifier were given the same ones, as long as the digests of what was read do not
collide.  Then it was read the same; and so it is, whatever the supplies are, if
every rule has an identifier of its own.
-/
theorem version_eq_iff_of_read
    (wellKeyed : document.WellKeyed)
    (noVersion :
      ∀ entries,
        document = .map entries →
        Entries.find? entries (.text "version") = none)
    (isRead : read supply document = .valid groupSet)
    (readAgain : read other document = .valid again)
    (collisionFree :
      Digest.ofText (digestedText groupSet.groups) =
        Digest.ofText (digestedText again.groups) →
      digestedText groupSet.groups = digestedText again.groups) :
    (groupSet.version = again.version ↔
        supply.AgreeFor other (idsTaken document)) ∧
      (supply.AgreeFor other (idsTaken document) → groupSet = again) ∧
      (idsTaken document = 0 → groupSet = again) := by
  have sameIfAgreed :
      supply.AgreeFor other (idsTaken document) → groupSet = again := by
    intro agree
    rw [read_congr agree, readAgain] at isRead
    cases isRead
    rfl
  refine ⟨⟨?_, ?_⟩, sameIfAgreed, ?_⟩
  · intro sameVersion
    rw [version_of_read noVersion isRead, version_of_read noVersion readAgain]
      at sameVersion
    have same :=
      (digestedText_eq_iff
        (fun group member =>
          (wellKeyed_of_read wellKeyed isRead group member).toPlain)
        (fun group member =>
          (wellKeyed_of_read wellKeyed readAgain group member).toPlain)).mp
        (collisionFree sameVersion)
    exact agreeFor_of_read isRead readAgain same
  · intro agree
    rw [sameIfAgreed agree]
  · intro noneTaken
    refine sameIfAgreed ?_
    rw [noneTaken]
    exact fun turn below => absurd below (Nat.not_lt_zero turn)

end GroupSet

/-- Where the rules have identifiers of their own the supply does not matter. -/
theorem GroupSet.version_eq_iff_of_read_definitions :
    Sample.definitions.WellKeyed ∧
      GroupSet.read (.numbered 0) Sample.definitions =
        .valid (GroupSet.ofGroups [Sample.definedGroup] "") ∧
      GroupSet.read (.numbered 1) Sample.definitions =
        .valid (GroupSet.ofGroups [Sample.definedGroup] "") ∧
      (IdSupply.numbered 0).AgreeFor (.numbered 1)
        (GroupSet.idsTaken Sample.definitions) := by
  have noVersion :
      ∀ entries,
        Sample.definitions = .map entries →
        Entries.find? entries (.text "version") = none := by
    rintro _ ⟨⟩
    exact Entries.find?_ofFields _ _
  obtain ⟨versions, _⟩ :=
    GroupSet.version_eq_iff_of_read Sample.definitions_wellKeyed noVersion
      (Sample.read_definitions (.numbered 0))
      (Sample.read_definitions (.numbered 1)) (fun same => rfl)
  exact ⟨Sample.definitions_wellKeyed, Sample.read_definitions _,
    Sample.read_definitions _, versions.mp rfl⟩

/-- A rule is written with its fields in ascending order. -/
theorem Rule.json_toPlain
    (rule : Rule) :
    rule.toPlain.json .canonical =
      '\x7b' ::
        (joined [',']
          ([("fact_path", .text rule.path.text),
            ("id", .text rule.id),
            ("operator", .text rule.condition.operator.name),
            ("value", rule.condition.expected.toValue.plain)].map
              Value.fieldJson) ++ ['\x7d']) := by
  have places : (List.range 4).Perm [1, 0, 2, 3] := by
    decide
  have ascends :
      Text.StrictlyAscending ["fact_path", "id", "operator", "value"] := by
    decide
  exact Value.json_ofFields_eq _ places rfl ascends

/-- A group is written with its fields in ascending order. -/
theorem Group.json_toPlain
    (group : Group) :
    group.toPlain.json .canonical =
      '\x7b' ::
        (joined [',']
          ([("classes", .texts group.classes),
            ("description", .text group.description),
            ("environment", .optionalText group.environment?),
            ("id", .text group.id),
            ("is_environment_group", .boolean group.assignsEnvironment),
            ("match_all_nodes", .boolean group.matchesAllNodes),
            ("name", .text group.name),
            ("parameters", .ofFields (Value.plainFields group.parameters)),
            ("parent_id", .optionalText group.parent?),
            ("pinned_nodes", .texts group.pinnedNodes),
            ("rule_match_type", .text group.matchType.name),
            ("rules", .list (group.rules.map Rule.toPlain)),
            ("variables", .ofFields (Value.plainFields group.globals))].map
              Value.fieldJson) ++ ['\x7d']) := by
  have places :
      (List.range 13).Perm [10, 2, 4, 0, 5, 6, 1, 11, 3, 9, 7, 8, 12] := by
    decide
  have ascends :
      Text.StrictlyAscending
        ["classes", "description", "environment", "id",
          "is_environment_group", "match_all_nodes", "name", "parameters",
          "parent_id", "pinned_nodes", "rule_match_type", "rules",
          "variables"] := by
    decide
  exact Value.json_ofFields_eq _ places rfl ascends

namespace Sample

/-- The definition of a group with a rule that has no identifier. -/
def unnamedDefinition : Value :=
  .ofFields
    [("id", .text "g"),
      ("rules", .list
        [.ofFields
          [("fact_path", .text "role"), ("operator", .text "exists")]])]

/-- The document of the single group. -/
def unnamedDefinitions : Value :=
  .ofFields [("groups", .list [unnamedDefinition])]

/-- The group with an identifier for its rule. -/
def unnamedGroup (id : String) : Group :=
  { Group.empty "g" with
    rules := [⟨id, ⟨"role", [.key "role"], rfl⟩, .presence false⟩] }

theorem read_unnamedDefinition
    (supply : IdSupply) :
    Group.read supply unnamedDefinition =
      .valid (unnamedGroup (supply.id 0)) :=
  Group.read_eq_valid_iff.mpr ⟨_, rfl,
    { id := rfl
      name := ⟨"", rfl, rfl⟩
      description := rfl
      parent := rfl
      environment := rfl
      assignsEnvironment := rfl
      matchesAllNodes := rfl
      matchType := rfl
      rules := rfl
      pinnedNodes := rfl
      classes := rfl
      parameters := rfl
      globals := rfl
      ruleIds := List.nodup_singleton _ }⟩

theorem read_unnamedDefinitions
    (supply : IdSupply) :
    GroupSet.read supply unnamedDefinitions =
      .valid (GroupSet.ofGroups [unnamedGroup (supply.id 0)] "") := by
  have groupsRead :
      Group.readList supply (.list [unnamedDefinition]) =
        .valid [unnamedGroup (supply.id 0)] := by
    rw [Group.readList_eq_suppliedList]
    exact Schema.suppliedList_eq_valid_iff.mpr
      ⟨[unnamedDefinition], rfl, .cons (read_unnamedDefinition supply) .nil⟩
  exact GroupSet.read_eq_valid_iff.mpr ⟨_, [unnamedGroup (supply.id 0)], "", rfl,
    Schema.withDefault_ofFields rfl groupsRead, rfl, rfl⟩

/-- The identifier of the rule shows in the version of the group set. -/
theorem digest_unnamedGroup_ne :
    GroupSet.digest [unnamedGroup (IdSupply.numberedId 0)] ≠
      GroupSet.digest [unnamedGroup (IdSupply.numberedId 1)] := by
  have empty : (Value.ofFields []).json .canonical = ['\x7b', '\x7d'] :=
    Value.json_ofFields_eq [] (.refl _) rfl .nil
  unfold GroupSet.digest Value.canonicalJson
  -- With the fields in order nothing is left to be sorted when the digests are computed.
  simp only [List.map_cons, List.map_nil, Value.json_list, Group.json_toPlain,
    Rule.json_toPlain, Value.fieldJson, unnamedGroup, Group.empty,
    Value.plainFields, empty]
  set_option maxRecDepth 20000 in decide +kernel

end Sample

/-- One document with a rule that has no identifier gives two versions. -/
theorem GroupSet.version_of_unnamedRule :
    ∃ left right,
      GroupSet.read (.numbered 0) Sample.unnamedDefinitions = .valid left ∧
        GroupSet.read (.numbered 1) Sample.unnamedDefinitions =
          .valid right ∧
        left.version ≠ right.version :=
  ⟨_, _, Sample.read_unnamedDefinitions _, Sample.read_unnamedDefinitions _,
    Sample.digest_unnamedGroup_ne⟩

end FleetConfig
