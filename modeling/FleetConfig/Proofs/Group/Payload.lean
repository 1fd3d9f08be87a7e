import FleetConfig.Proofs.Document.JsonKeys
import FleetConfig.Proofs.Group.Set
import FleetConfig.Proofs.Inventory
import FleetConfig.Proofs.Value.Sortable

/-!
# Where the payload of groups comes from

What a group that was read sets stands somewhere in the document.  So if the keys of
each map in a file can be compared, the groups in it set nothing else, and the groups
in a file in JSON set values with text keys only.
-/

namespace FleetConfig

namespace Value

/-- A value that occurs in one with text keys has text keys. -/
theorem Occurs.hasTextKeys
    {value outer : Value}
    (occurs : value.Occurs outer)
    (textKeys : outer.hasTextKeys = true) :
    value.hasTextKeys = true := by
  induction occurs with
  | here =>
      exact textKeys
  | item member _ inductionHypothesis =>
      exact inductionHypothesis (haveTextKeys_iff.mp textKeys _ member)
  | entry member _ inductionHypothesis =>
      exact inductionHypothesis (entriesHaveTextKeys_iff_forall.mp textKeys _ member).2

/-- A value with text keys has keys that can be put in order. -/
theorem comparableKeys_of_hasTextKeys
    {value : Value}
    (textKeys : value.hasTextKeys = true) :
    value.ComparableKeys :=
  (isSortable_iff value).mp (isSortable_of_hasTextKeys value textKeys)

theorem occurs_of_find?
    {entries : Entries}
    {key : Scalar}
    {value : Value}
    (found : entries.find? key = some value) :
    value.Occurs (.map entries) := by
  unfold Entries.find? at found
  obtain ⟨entry, isFound, rfl⟩ := Option.map_eq_some_iff.mp found
  exact .entry (List.mem_of_find?_eq_some isFound) .here

theorem Occurs.trans
    {value middle outer : Value}
    (inner : value.Occurs middle)
    (occurs : middle.Occurs outer) :
    value.Occurs outer := by
  induction occurs with
  | here =>
      exact inner
  | item member _ inductionHypothesis =>
      exact .item member inductionHypothesis
  | entry member _ inductionHypothesis =>
      exact .entry member inductionHypothesis

/-- A value that occurs in one whose keys can be put in order is such a value itself. -/
theorem Occurs.comparableKeys
    {value outer : Value}
    (occurs : value.Occurs outer)
    (comparable : outer.ComparableKeys) :
    value.ComparableKeys :=
  fun entries inside => comparable entries (inside.trans occurs)

end Value

namespace Group

/-- The keys of each map that a group sets can be put in order. -/
structure ComparableKeys (group : Group) : Prop where
  parameters : ∀ field ∈ group.parameters, field.2.ComparableKeys
  globals : ∀ field ∈ group.globals, field.2.ComparableKeys

theorem HasTextKeys.comparableKeys
    {group : Group}
    (textKeys : group.HasTextKeys) :
    group.ComparableKeys where
  parameters field isSet :=
    Value.comparableKeys_of_hasTextKeys (textKeys.parameters field isSet)
  globals field isSet :=
    Value.comparableKeys_of_hasTextKeys (textKeys.globals field isSet)

variable {group : Group} {supply : IdSupply} {document : Value}

/-- Each value that a group sets was written somewhere in its document. -/
theorem occurs_of_read
    (isRead : read supply document = .valid group) :
    ∀ field ∈ group.parameters ++ group.globals, field.2.Occurs document := by
  obtain ⟨entries, rfl, reads⟩ := read_eq_valid_iff.mp isRead
  have payload :
      ∀ {name : String} {fields : Fields},
        Schema.withDefault entries name [] Schema.fields = .valid fields →
        ∀ field ∈ fields, field.2.Occurs (.map entries) := by
    intro name fields fieldsRead
    refine Schema.of_withDefault fieldsRead ?_ nofun
    intro written found valid field member
    rw [Schema.fields_eq_valid_iff.mp valid] at found
    have inFields : field.2.Occurs (.ofFields fields) :=
      .entry (List.mem_map_of_mem member) .here
    exact inFields.trans (Value.occurs_of_find? found)
  rw [List.forall_mem_append]
  exact ⟨payload reads.parameters, payload reads.globals⟩

end Group

namespace Inventory

variable {readers : Readers}
  {supply : IdSupply}
  {path : String}
  {content : Content}
  {groupSet : GroupSet}
  {value : Value}

/-- A group set that was loaded was read from the definitions in a document of the file. -/
theorem exists_definitions
    (loaded : Inventory.groupSet readers supply path content = .ok groupSet) :
    ∃ value definitions,
      File.read readers path content = .ok value ∧
        definitions? value = some definitions ∧
        GroupSet.read supply definitions = .valid groupSet := by
  unfold Inventory.groupSet document at loaded
  cases given : File.read readers path content with
  | error reason =>
      rw [given] at loaded
      cases loaded
  | ok value =>
      rw [given] at loaded
      dsimp only [Except.mapError, bind, Except.bind] at loaded
      cases found : definitions? value with
      | none =>
          rw [found] at loaded
          cases loaded
      | some definitions =>
          rw [found] at loaded
          dsimp only at loaded
          cases isRead : GroupSet.read supply definitions with
          | invalid complaints =>
              rw [isRead] at loaded
              cases loaded
          | valid read =>
              rw [isRead] at loaded
              cases loaded
              exact ⟨value, definitions, rfl, found, isRead⟩

/-- Each value that a group of a loaded set sets was written somewhere in the file. -/
theorem occurs_of_groupSet
    (given : File.read readers path content = .ok value)
    (loaded : Inventory.groupSet readers supply path content = .ok groupSet) :
    ∀ group ∈ groupSet.groups,
      ∀ field ∈ group.parameters ++ group.globals, field.2.Occurs value := by
  intro group member field isSet
  obtain ⟨other, definitions, otherGiven, defined, isRead⟩ := exists_definitions loaded
  cases given.symm.trans otherGiven
  obtain ⟨entries, documents, part, _, rfl, found, listed, partRead⟩ :=
    GroupSet.exists_read_of_mem isRead member
  have inPart := Group.occurs_of_read partRead field isSet
  -- A list of groups is put into a record before it is read, so that it is found there.
  unfold definitions? at defined
  split at defined <;> cases defined
  case h_1 =>
    cases found
    contradiction
  case h_2 items =>
    cases found
    exact .item listed inPart
  case h_3 =>
    exact Value.Occurs.trans (.item listed inPart) (Value.occurs_of_find? found)

/-- The document in a file in JSON has text keys. -/
theorem hasTextKeys_of_isJson
    (readsJson : readers.json = Readers.standard.json)
    (isJson : File.isJson (File.tidy path) = true)
    (given : File.read readers path content = .ok value) :
    value.hasTextKeys = true := by
  obtain ⟨bytes, _, decoded⟩ := File.exists_bytes_of_read given
  unfold Readers.forPath at decoded
  rw [if_pos isJson, readsJson] at decoded
  dsimp only [Readers.standard, File.decoded] at decoded
  cases holds : File.textOf? bytes with
  | none =>
      rw [holds] at decoded
      cases decoded
  | some text =>
      rw [holds] at decoded
      exact Json.hasTextKeys_of_read decoded

/-- The groups in a file with text keys only set values with text keys. -/
theorem hasTextKeys_of_groupSet
    (given : File.read readers path content = .ok value)
    (textKeys : value.hasTextKeys = true)
    (loaded : Inventory.groupSet readers supply path content = .ok groupSet) :
    ∀ group ∈ groupSet.groups, group.HasTextKeys := by
  intro group member
  have occurs := occurs_of_groupSet given loaded group member
  rw [List.forall_mem_append] at occurs
  exact ⟨fun field isSet => (occurs.1 field isSet).hasTextKeys textKeys,
    fun field isSet => (occurs.2 field isSet).hasTextKeys textKeys⟩

/-- If the keys of each map in a file can be put in order, so can those its groups set. -/
theorem comparableKeys_of_groupSet
    (given : File.read readers path content = .ok value)
    (comparable : value.ComparableKeys)
    (loaded : Inventory.groupSet readers supply path content = .ok groupSet) :
    ∀ group ∈ groupSet.groups, group.ComparableKeys := by
  intro group member
  have occurs := occurs_of_groupSet given loaded group member
  rw [List.forall_mem_append] at occurs
  exact ⟨fun field isSet => (occurs.1 field isSet).comparableKeys comparable,
    fun field isSet => (occurs.2 field isSet).comparableKeys comparable⟩

end Inventory

end FleetConfig
