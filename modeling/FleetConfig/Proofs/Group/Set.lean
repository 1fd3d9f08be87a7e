import FleetConfig.Proofs.Group.Reading

/-!
# Group sets are loaded again

Whatever a document spells them like, groups are written in one way, and what is
written is read as the same groups.  Only numbers that are not finite get lost:
they are written as `null`.  The digest is taken of what is written, so that it
survives being written and loaded in any case.
-/

namespace FleetConfig

namespace GroupSet

variable {groupSet : GroupSet} {supply : IdSupply} {document : Value}

/-- A group set is read from a record of groups and a version, both of which may be left out. -/
theorem read_eq_valid_iff :
    read supply document = .valid groupSet ↔
      ∃ entries groups version,
        document = .map entries ∧
          Schema.withDefault entries "groups" [] (Group.readList supply) =
            .valid groups ∧
          Schema.withDefault entries "version" "" Schema.text = .valid version ∧
          ofGroups groups version = groupSet := by
  unfold read
  rw [Checked.andThen_eq_valid_iff]
  simp only [Checked.seq_eq_valid_iff, Checked.functor_map_eq_valid_iff,
    Schema.record_eq_valid_iff]
  constructor
  · rintro ⟨entries, isRecord, _, version, ⟨groups, groupsRead, rfl⟩,
      versionRead, made⟩
    exact ⟨entries, groups, version, isRecord, groupsRead, versionRead, made⟩
  · rintro ⟨entries, groups, version, isRecord, groupsRead, versionRead, made⟩
    exact ⟨entries, isRecord, _, version, ⟨groups, groupsRead, rfl⟩,
      versionRead, made⟩

/-- Every group of a set was read from one of the documents listed in the document of the set. -/
theorem exists_read_of_mem
    (isRead : read supply document = .valid groupSet)
    {group : Group}
    (member : group ∈ groupSet.groups) :
    ∃ entries documents part start,
      document = .map entries ∧
        Entries.find? entries (.text "groups") = some (.list documents) ∧
        part ∈ documents ∧
        Group.read start part = .valid group := by
  obtain ⟨entries, groups, version, rfl, groupsRead, _, rfl⟩ :=
    read_eq_valid_iff.mp isRead
  change group ∈ groups at member
  revert member
  refine Schema.of_withDefault groupsRead ?_ nofun
  intro written found valid member
  rw [Group.readList_eq_suppliedList] at valid
  obtain ⟨documents, rfl, inTurn⟩ := Schema.suppliedList_eq_valid_iff.mp valid
  obtain ⟨part, listed, start, partRead⟩ := inTurn.exists_of_mem member
  exact ⟨entries, documents, part, start, rfl, found, listed, partRead⟩

theorem wellFormed_of_read
    (isRead : read supply document = .valid groupSet) :
    ∀ group ∈ groupSet.groups, group.WellFormed := by
  intro group member
  obtain ⟨_, _, _, _, _, _, _, groupRead⟩ := exists_read_of_mem isRead member
  exact Group.wellFormed_of_read groupRead

theorem wellKeyed_of_read
    (wellKeyed : document.WellKeyed)
    (isRead : read supply document = .valid groupSet) :
    ∀ group ∈ groupSet.groups, group.WellKeyed := by
  intro group member
  obtain ⟨_, _, _, _, rfl, found, listed, groupRead⟩ :=
    exists_read_of_mem isRead member
  exact Group.wellKeyed_of_read ((wellKeyed.find? found).of_mem listed) groupRead

/-- The rules of all groups take the identifiers of a group set. -/
theorem idsTaken_eq_takenByField :
    idsTaken = Schema.takenByField Group.idsTaken "groups" := by
  funext document
  rw [Schema.takenByField_eq]
  rfl

/-- A group set is read the same if the supplies agree on the identifiers that it takes. -/
theorem read_congr
    {other : IdSupply}
    (agree : supply.AgreeFor other (idsTaken document)) :
    read supply document = read other document := by
  cases document with
  | map entries =>
      rw [idsTaken_eq_takenByField] at agree
      have groups :
          Schema.withDefault entries "groups" [] (Group.readList supply) =
            Schema.withDefault entries "groups" [] (Group.readList other) := by
        rw [Group.readList_eq_suppliedList]
        exact Schema.withDefault_suppliedList_congr Group.read_congr agree
      unfold read
      rw [Schema.record_eq_valid_iff.mpr rfl, Checked.andThen_valid,
        Checked.andThen_valid, groups]
  | scalar value =>
      rfl
  | list items =>
      rfl

/-- A group set without a version in its document has the digest of its groups for one. -/
theorem version_of_read
    (noVersion :
      ∀ entries,
        document = .map entries →
        Entries.find? entries (.text "version") = none)
    (isRead : read supply document = .valid groupSet) :
    groupSet.version = digest groupSet.groups := by
  obtain ⟨entries, groups, version, isMap, _, versionRead, rfl⟩ :=
    read_eq_valid_iff.mp isRead
  rcases Schema.withDefault_eq_valid_iff.mp versionRead with
      ⟨written, found, _⟩ | ⟨_, isDefault⟩
  · rw [noVersion entries isMap] at found
    contradiction
  · rw [← isDefault]
    rfl

/-- The document that groups are written as. -/
def written (groups : List Group) : Value :=
  .ofFields [("groups", .list (groups.map Group.toPlain))]

/-- Well-formed groups are read again from what was written, whatever the supply. -/
theorem read_written
    {groups : List Group}
    (wellFormed : ∀ group ∈ groups, group.WellFormed)
    (supply : IdSupply) :
    read supply (written groups) =
      .valid (ofGroups (groups.map Group.plain) "") := by
  have groupsRead :
      Group.readList supply (.list (groups.map Group.toPlain)) =
        .valid (groups.map Group.plain) := by
    rw [Group.readList_eq_suppliedList]
    exact Schema.suppliedList_eq_valid_iff.mpr ⟨_, rfl,
      .map fun group member => Group.read_toPlain (wellFormed group member)⟩
  exact read_eq_valid_iff.mpr ⟨_, groups.map Group.plain, "", rfl,
    Schema.withDefault_ofFields rfl groupsRead, rfl, rfl⟩

/--
A group set that was read from a document is loaded again, group by group and
with its digest, from what its groups are written as; and without a version of its
own in the document it keeps its version.
-/
theorem read_written_of_read
    (wellKeyed : document.WellKeyed)
    (isRead : read supply document = .valid groupSet)
    (textKeys : ∀ group ∈ groupSet.groups, group.HasTextKeys)
    (finite : ∀ group ∈ groupSet.groups, group.IsFinite)
    (next : IdSupply) :
    ∃ again,
      read next (written groupSet.groups) = .valid again ∧
        again.groups = groupSet.groups ∧
        digest again.groups = digest groupSet.groups ∧
        written again.groups = written groupSet.groups ∧
        again.version = digest groupSet.groups ∧
        ((∀ entries,
            document = .map entries →
            Entries.find? entries (.text "version") = none) →
          again.version = groupSet.version) := by
  have same : groupSet.groups.map Group.plain = groupSet.groups :=
    Group.map_plain_eq_self
      (fun group member =>
        (wellKeyed_of_read wellKeyed isRead group member).isJson
          (textKeys group member))
      finite
  have readAgain := read_written (wellFormed_of_read isRead) next
  rw [same] at readAgain
  exact ⟨_, readAgain, rfl, rfl, rfl, rfl,
    fun noVersion => (version_of_read noVersion isRead).symm⟩

end GroupSet

namespace Sample

/-- Rules as they may stand in a file, with a symbol for an operator and an unused value. -/
def ruleDefinitions : List Value :=
  [.ofFields
      [("id", .text "r1"),
        ("fact_path", .text " os.family "),
        ("operator", .text "=="),
        ("value", .null)],
    .ofFields
      [("id", .text "r2"),
        ("fact_path", .text "os"),
        ("operator", .text "Exists"),
        ("value", .integer 1)]]

/-- A group as it may stand in a file, with a number for an identifier and a blank environment. -/
def groupDefinition : Value :=
  .ofFields
    [("id", .integer 7),
      ("environment", .text " "),
      ("pinned_nodes", .texts ["a", "b"]),
      ("rules", .list ruleDefinitions),
      ("parameters", .ofFields [("port", .integer 80)])]

/-- The document of a single group. -/
def definitions : Value :=
  .ofFields [("groups", .list [groupDefinition])]

/-- The group that is defined. -/
def definedGroup : Group :=
  { Group.empty "7" with
    rules :=
      [⟨"r1", ⟨"os.family", [.key "os", .key "family"], rfl⟩, .equality false .null⟩,
        ⟨"r2", ⟨"os", [.key "os"], rfl⟩, .presence false⟩]
    pinnedNodes := ["a", "b"]
    parameters := [("port", .integer 80)] }

theorem definitions_wellKeyed : definitions.WellKeyed := by
  have scalars :
      ∀ fields : Fields,
        (fields.map Prod.fst).Nodup →
        (∀ field ∈ fields, field.2.isScalar = true) →
        (Value.ofFields fields).WellKeyed := by
    intro fields distinct each
    refine Value.wellKeyed_ofFields distinct fun field member => ?_
    have isScalar := each field member
    cases shape : field.2 with
    | scalar value =>
        exact .scalar value
    | list items =>
        rw [shape] at isScalar
        contradiction
    | map entries =>
        rw [shape] at isScalar
        contradiction
  have rules : (Value.list ruleDefinitions).WellKeyed := by
    refine .list (List.forall_mem_cons.mpr
      ⟨scalars _ (by decide) ?_, List.forall_mem_singleton.mpr
        (scalars _ (by decide) ?_)⟩)
    · simp [Value.isScalar, Value.text, Value.null]
    · simp [Value.isScalar, Value.text, Value.integer]
  have group : groupDefinition.WellKeyed := by
    refine Value.wellKeyed_ofFields (by decide) ?_
    simp only [List.forall_mem_cons]
    refine ⟨.scalar _, .scalar _, ?_, rules, ?_, ?_⟩
    · exact .list (by simp [Value.text, Value.WellKeyed.scalar])
    · exact scalars _ (by decide) (by simp [Value.isScalar, Value.integer])
    · simp
  exact Value.wellKeyed_ofFields (by decide)
    (List.forall_mem_singleton.mpr (.list (List.forall_mem_singleton.mpr group)))

theorem read_groupDefinition
    (supply : IdSupply) :
    Group.read supply groupDefinition = .valid definedGroup :=
  Group.read_eq_valid_iff.mpr ⟨_, rfl,
    { id := rfl
      name := ⟨"", rfl, rfl⟩
      description := rfl
      parent := rfl
      environment := rfl
      assignsEnvironment := rfl
      matchesAllNodes := rfl
      matchType := rfl
      rules := rfl
      pinnedNodes :=
        Schema.withDefault_ofFields rfl
          (Group.readPinnedNodes_texts (by decide))
      classes := rfl
      parameters := rfl
      globals := rfl
      ruleIds := by decide }⟩

theorem read_definitions
    (supply : IdSupply) :
    GroupSet.read supply definitions =
      .valid (GroupSet.ofGroups [definedGroup] "") := by
  have groupsRead :
      Group.readList supply (.list [groupDefinition]) = .valid [definedGroup] := by
    rw [Group.readList_eq_suppliedList]
    exact Schema.suppliedList_eq_valid_iff.mpr
      ⟨[groupDefinition], rfl, .cons (read_groupDefinition supply) .nil⟩
  exact GroupSet.read_eq_valid_iff.mpr ⟨_, [definedGroup], "", rfl,
    Schema.withDefault_ofFields rfl groupsRead, rfl, rfl⟩

theorem definedGroup_hasTextKeys : definedGroup.HasTextKeys :=
  ⟨by decide, by decide⟩

theorem definedGroup_isFinite : definedGroup.IsFinite :=
  ⟨by decide, by decide, by decide⟩

end Sample

/-- Blanks, a symbol and an unused value are written differently and read as the same group. -/
theorem GroupSet.read_written_of_read_definitions :
    Sample.definitions.WellKeyed ∧
      GroupSet.read (.numbered 0) Sample.definitions =
        .valid (GroupSet.ofGroups [Sample.definedGroup] "") ∧
      (∀ group ∈ [Sample.definedGroup], group.HasTextKeys) ∧
      (∀ group ∈ [Sample.definedGroup], group.IsFinite) ∧
      ∃ again,
        GroupSet.read (.numbered 1)
              (GroupSet.written [Sample.definedGroup]) =
            .valid again ∧
          again.groups = [Sample.definedGroup] := by
  have textKeys :
      ∀ group ∈ [Sample.definedGroup], group.HasTextKeys :=
    List.forall_mem_singleton.mpr Sample.definedGroup_hasTextKeys
  have finite :
      ∀ group ∈ [Sample.definedGroup], group.IsFinite :=
    List.forall_mem_singleton.mpr Sample.definedGroup_isFinite
  obtain ⟨again, isRead, sameGroups, _⟩ :=
    GroupSet.read_written_of_read Sample.definitions_wellKeyed
      (Sample.read_definitions (.numbered 0)) textKeys finite (.numbered 1)
  exact ⟨Sample.definitions_wellKeyed, Sample.read_definitions _, textKeys,
    finite, again, isRead, sameGroups⟩

end FleetConfig
