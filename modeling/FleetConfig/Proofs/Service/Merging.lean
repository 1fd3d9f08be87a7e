import FleetConfig.Proofs.Group.Payload
import FleetConfig.Proofs.Service.Breakdown
import FleetConfig.Proofs.Service.Members

/-!
# When groups cannot be merged

A merge compares what groups set by writing it with sorted keys, also where nothing
else is set to compare it with.  So groups of an accepted group set are merged unless
one of them sets a map with two keys that cannot be put in order, and a classification
that gets as far as the merge fails there if the node belongs to such a group.
-/

namespace FleetConfig

namespace PlacedGroup

theorem areComparable_iff
    {ordered : List PlacedGroup} :
    areComparable ordered = true ↔
      ∀ placed ∈ ordered, placed.2.ComparableKeys := by
  unfold areComparable
  rw [List.all_eq_true]
  refine forall₂_congr fun placed _ => ?_
  simp only [Bool.and_eq_true, List.all_eq_true, Value.isSortable_iff]
  exact ⟨fun ⟨parameters, globals⟩ => ⟨parameters, globals⟩,
    fun comparable => ⟨comparable.parameters, comparable.globals⟩⟩

/-- Putting groups in order leaves their keys as they are. -/
theorem areComparable_inOrder_placed_iff
    {hierarchy : Hierarchy}
    {groups : List Group} :
    areComparable (inOrder (placed hierarchy groups)) = true ↔
      ∀ group ∈ groups, group.ComparableKeys := by
  unfold inOrder placed
  simp only [areComparable_iff, List.mem_mergeSort, List.forall_mem_map]

section Merging

variable {groupSet : GroupSet}
  {groups : List Group}
  (sound : groupSet.parents.Sound)
  (members : groups ⊆ groupSet.groups)
  (reported? : Option String)

include sound members

/-- Groups are merged exactly if the keys of all of them can be put in order. -/
theorem exists_mergeGroups_iff :
    (∃ merged, mergeGroups groups groupSet.hierarchy reported? = .ok merged) ↔
      ∀ group ∈ groups, group.ComparableKeys := by
  rw [← areComparable_inOrder_placed_iff, mergeGroups_of_sound sound members]
  cases areComparable (inOrder (placed groupSet.hierarchy groups)) <;> simp

/-- What keeps groups from being merged is a group with keys that cannot be put in order. -/
theorem mergeGroups_eq_error_iff
    {error : MergeError} :
    mergeGroups groups groupSet.hierarchy reported? = .error error ↔
      error = .incomparableKeys ∧ ∃ group ∈ groups, ¬ group.ComparableKeys := by
  have someFails :
      (∃ group ∈ groups, ¬ group.ComparableKeys) ↔
        ¬ ∀ group ∈ groups, group.ComparableKeys := by
    push Not
    rfl
  rw [someFails, ← areComparable_inOrder_placed_iff, mergeGroups_of_sound sound members]
  cases areComparable (inOrder (placed groupSet.hierarchy groups)) <;> simp [eq_comm]

end Merging

end PlacedGroup

namespace Direct

variable {settings : Settings} {node : Node} {groupSet : GroupSet}

theorem settleMerge_eq_error_iff
    {version : String}
    {examined : List Engine.Examined}
    {merged : Except MergeError Merged}
    {error : MergeError} :
    settleMerge node version examined merged = .error (.merge error) ↔
      merged = .error error := by
  unfold settleMerge
  cases merged with
  | error found =>
      simp [Except.mapError, Except.map]
  | ok merged =>
      simp [Except.mapError, Except.map]

/-- Where a pattern breaks down, a node is not resolved, and the merge is not reached. -/
theorem exists_resolve_eq_pattern
    (sound : groupSet.parents.Sound)
    {group : Group}
    (member : group ∈ groupSet.groups)
    (breaksDown : group.breakdown? settings.filtersEnvironments node ≠ none) :
    ∃ fatal,
      resolve settings node groupSet groupSet.hierarchy =
        .error (.pattern fatal) := by
  have stops :
      (groupSet.ordered.findSome?
        (Group.breakdown? settings.filtersEnvironments node)).isSome = true := by
    rw [List.findSome?_isSome_iff]
    exact ⟨group, (GroupSet.ordered_perm sound).symm.subset member,
      Option.isSome_iff_ne_none.mpr breaksDown⟩
  obtain ⟨fatal, first⟩ := Option.isSome_iff_exists.mp stops
  exact ⟨fatal, resolve_eq_pattern_iff.mpr first⟩

/--
Resolving a node fails in the merge exactly if no pattern breaks down before and the
node belongs to a group with keys that cannot be put in order.
-/
theorem resolve_eq_merge_iff
    (sound : groupSet.parents.Sound)
    {error : MergeError} :
    resolve settings node groupSet groupSet.hierarchy = .error (.merge error) ↔
      error = .incomparableKeys ∧
        (∀ group ∈ groupSet.groups,
          group.breakdown? settings.filtersEnvironments node = none) ∧
        ∃ group ∈ groupSet.groups,
          Belongs settings node group ∧ ¬ group.ComparableKeys := by
  by_cases goesOn :
      ∀ group ∈ groupSet.groups,
        group.breakdown? settings.filtersEnvironments node = none
  case neg =>
    refine iff_of_false (fun fails => ?_) fun holds => goesOn holds.2.1
    push Not at goesOn
    obtain ⟨group, member, breaksDown⟩ := goesOn
    obtain ⟨fatal, stops⟩ := exists_resolve_eq_pattern sound member breaksDown
    cases fails.symm.trans stops
  case pos =>
    obtain ⟨verdict, judged⟩ :=
      exists_verdict fun group member =>
        exists_membership_of_breakdown?_eq_none (goesOn group member)
    have permuted := GroupSet.ordered_perm sound
    have members :
        groupSet.ordered.filter (fun group => (verdict group).holds) ⊆
          groupSet.groups :=
      fun group listed => permuted.subset (List.mem_of_mem_filter listed)
    rw [resolve_of_judged sound judged, settleMerge_eq_error_iff,
      PlacedGroup.mergeGroups_eq_error_iff sound members]
    refine and_congr_right fun _ => ?_
    rw [and_iff_right goesOn]
    constructor
    · rintro ⟨group, listed, incomparable⟩
      obtain ⟨inOrder, holds⟩ := List.mem_filter.mp listed
      have member := permuted.subset inOrder
      exact ⟨group, member, (belongs_iff (judged group member)).mpr holds, incomparable⟩
    · rintro ⟨group, member, belongs, incomparable⟩
      have holds := (belongs_iff (judged group member)).mp belongs
      exact ⟨group, List.mem_filter.mpr ⟨permuted.symm.subset member, holds⟩,
        incomparable⟩

end Direct

namespace Inventory

/--
Groups of a set that was loaded and accepted are merged, whichever they are, unless
one of them sets a map with two keys that cannot be put in order.  There is no such
group if the document has no such map, and none in a file in JSON.  An engine that is
true to the set fails in the merge for a node exactly if it gets there, which a pattern
that breaks down prevents, and the node belongs to such a group.

Nothing is assumed of how a file is read but that its document is made of maps, lists
and scalars.  An integer beyond the limit for texts of integers breaks a merge or an
evaluation in its own way and is left out.
-/
theorem merges_unless_incomparable
    {readers : Readers}
    {supply : IdSupply}
    {path : String}
    {content : Content}
    {groupSet : GroupSet}
    {limits : CapacityLimits}
    {hierarchy : Hierarchy}
    (loaded : Inventory.groupSet readers supply path content = .ok groupSet)
    (accepted : groupSet.validate limits = .ok hierarchy) :
    (∀ groups ⊆ groupSet.groups, ∀ reported?,
        (∀ group ∈ groups, group.isWritable = true) →
        ((∃ merged, mergeGroups groups hierarchy reported? = .ok merged) ↔
            ∀ group ∈ groups, group.ComparableKeys) ∧
          ∀ error,
            mergeGroups groups hierarchy reported? = .error error →
            error = .incomparableKeys) ∧
      (∀ value,
        File.read readers path content = .ok value →
        (readers.json = Readers.standard.json ∧ File.isJson (File.tidy path) = true) ∨
          value.ComparableKeys →
        ∀ group ∈ groupSet.groups, group.ComparableKeys) ∧
      ∀ (engine : Engine) settings (node : Node) error,
        engine.TrueTo settings groupSet →
        groupSet.validate (Engine.limits settings) = .ok hierarchy →
        (Value.ofFields node.facts).isWritable = true →
        (∀ group ∈ groupSet.groups, group.isWritable = true) →
        ((engine.run (Engine.classify settings node groupSet)).1 =
            .error (.merge error) ↔
          error = .incomparableKeys ∧
            (∀ group ∈ groupSet.groups,
              group.breakdown? settings.filtersEnvironments node = none) ∧
            ∃ group ∈ groupSet.groups,
              Direct.Belongs settings node group ∧ ¬ group.ComparableKeys) := by
  have sound := GroupSet.sound_of_validate accepted
  have isHierarchy := GroupSet.hierarchy_of_validate accepted
  refine ⟨fun groups members reported? _ => ⟨?merged, fun error fails => ?failed⟩,
    fun value given origin => ?ordered,
    fun engine settings node error trueTo acceptedHere _ _ => ?classified⟩
  case merged =>
    rw [isHierarchy]
    exact PlacedGroup.exists_mergeGroups_iff sound members reported?
  case failed =>
    rw [isHierarchy] at fails
    exact ((PlacedGroup.mergeGroups_eq_error_iff sound members reported?).mp fails).1
  case ordered =>
    rcases origin with ⟨readsJson, isJson⟩ | comparable
    · have textKeys :=
        hasTextKeys_of_groupSet given
          (hasTextKeys_of_isJson readsJson isJson given) loaded
      exact fun group member => (textKeys group member).comparableKeys
    · exact comparableKeys_of_groupSet given comparable loaded
  case classified =>
    rw [trueTo.run_classify]
    unfold Direct.classify
    rw [acceptedHere, isHierarchy]
    exact Direct.resolve_eq_merge_iff sound

end Inventory

/-- A value that comes out and passes a test is there. -/
theorem exists_eq_ok_of_any
    {ε α : Type}
    {outcome : Except ε α}
    {passes : α → Bool}
    (tested : outcome.toOption.any passes = true) :
    ∃ value, outcome = .ok value ∧ passes value = true := by
  cases outcome with
  | error error =>
      cases tested
  | ok value =>
      exact ⟨value, rfl, tested⟩

namespace Sample

/-- A group in JSON that sets a map within a map. -/
def textKeysFile : String :=
  "\x7b\"groups\": [\x7b\"id\": \"g\", \"parameters\": " ++
    "\x7b\"x\": \x7b\"b\": 1, \"a\": \x7b\"d\": [], \"c\": 0\x7d\x7d\x7d\x7d], " ++
    "\"version\": \"v1\"\x7d"

/-- A group in YAML that sets a map with a number and a text for keys. -/
def mixedKeysFile : String :=
  "groups:\n" ++
    "- id: g\n" ++
    "  match_all_nodes: true\n" ++
    "  parameters:\n" ++
    "    x:\n" ++
    "      1: a\n" ++
    "      b: c\n" ++
    "version: v1\n"

end Sample

namespace Inventory

/-- The group in JSON is merged, however often it is given. -/
theorem merges_unless_incomparable_textKeys :
    ∃ groupSet hierarchy,
      Inventory.groupSet .standard (.numbered 1) "groups.json" (.ok Sample.textKeysFile.toUTF8) =
          .ok groupSet ∧
        groupSet.validate (Engine.limits {}) = .ok hierarchy ∧
        ∀ groups ⊆ groupSet.groups, ∀ reported?, ∃ merged,
          mergeGroups groups hierarchy reported? = .ok merged := by
  have tested :
      (Inventory.groupSet .standard (.numbered 1) "groups.json"
          (.ok Sample.textKeysFile.toUTF8)).toOption.any
        (fun groupSet =>
          (groupSet.validate (Engine.limits {})).toOption.any fun _ =>
            groupSet.groups.all Group.isWritable) =
        true := by
    decide +kernel
  obtain ⟨groupSet, loaded, accepts⟩ := exists_eq_ok_of_any tested
  obtain ⟨hierarchy, accepted, writable⟩ := exists_eq_ok_of_any accepts
  obtain ⟨value, _, given, _⟩ := exists_definitions loaded
  obtain ⟨merges, comparable, _⟩ := merges_unless_incomparable loaded accepted
  refine ⟨groupSet, hierarchy, loaded, accepted, fun groups members reported? => ?_⟩
  have groupsWritable : ∀ group ∈ groups, group.isWritable = true :=
    fun group member => List.all_eq_true.mp writable group (members member)
  exact (merges groups members reported? groupsWritable).1.mpr fun group member =>
    comparable value given (.inl ⟨rfl, by decide⟩) group (members member)

/-- The group in YAML is loaded and accepted, but it cannot be merged even by itself. -/
theorem mergeGroups_mixedKeys :
    ∃ groupSet hierarchy,
      Inventory.groupSet .standard (.numbered 1) "groups.yaml" (.ok Sample.mixedKeysFile.toUTF8) =
          .ok groupSet ∧
        groupSet.validate (Engine.limits {}) = .ok hierarchy ∧
        mergeGroups groupSet.groups hierarchy none = .error .incomparableKeys := by
  have tested :
      (Inventory.groupSet .standard (.numbered 1) "groups.yaml"
          (.ok Sample.mixedKeysFile.toUTF8)).toOption.any
        (fun groupSet =>
          (groupSet.validate (Engine.limits {})).toOption.any fun hierarchy =>
            !(mergeGroups groupSet.groups hierarchy none).isOk) =
        true := by
    decide +kernel
  obtain ⟨groupSet, loaded, accepts⟩ := exists_eq_ok_of_any tested
  obtain ⟨hierarchy, accepted, fails⟩ := exists_eq_ok_of_any accepts
  refine ⟨groupSet, hierarchy, loaded, accepted, ?_⟩
  have sound := GroupSet.sound_of_validate accepted
  cases merged : mergeGroups groupSet.groups hierarchy none with
  | ok result =>
      rw [merged] at fails
      cases fails
  | error error =>
      rw [GroupSet.hierarchy_of_validate accepted] at merged
      rw [((PlacedGroup.mergeGroups_eq_error_iff sound (List.Subset.refl _)
        none).mp merged).1]

end Inventory

end FleetConfig
