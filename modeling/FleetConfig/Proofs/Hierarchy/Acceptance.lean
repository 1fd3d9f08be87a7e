import FleetConfig.Proofs.Hierarchy.Cycle
import FleetConfig.Proofs.Hierarchy.Place
import Mathlib.Data.List.Nodup

/-!
# Accepted group sets

Validation accepts only sound hierarchies.  The hierarchy of an accepted group
set gives every group its depth and lists all groups in order of their places,
so that looking the groups up along that order goes through all of them.
-/

namespace FleetConfig

namespace Parents

variable {parents : Parents}

/-- The duplicates are the identifiers that occur more than once. -/
theorem mem_duplicates
    {id : String} :
    id ∈ parents.duplicates ↔ 1 < (parents.map Prod.fst).count id := by
  unfold duplicates
  rw [Text.mem_distinctAscending, List.mem_filter, decide_eq_true_iff]
  constructor
  · exact And.right
  · intro repeated
    exact ⟨List.count_pos_iff.mp (by omega), repeated⟩

theorem duplicates_strictlyAscending
    (parents : Parents) :
    Text.StrictlyAscending parents.duplicates :=
  Text.distinctAscending_strictlyAscending _

/-- There are no duplicates exactly when all identifiers differ. -/
theorem duplicates_eq_nil_iff :
    parents.duplicates = [] ↔ (parents.map Prod.fst).Nodup := by
  rw [List.nodup_iff_count, List.eq_nil_iff_forall_not_mem]
  simp only [mem_duplicates, Nat.not_lt]

/-- A parent is missing when a group names it and it is not there. -/
theorem mem_missing
    {id parent : String} :
    (id, parent) ∈ parents.missing ↔
      parents.Links id parent ∧ parent ∉ parents.map Prod.fst := by
  have known_iff : parents.has parent = true ↔ parent ∈ parents.map Prod.fst :=
    Entries.lookup_isSome_iff
  unfold missing
  rw [List.mem_mergeSort, List.mem_filterMap, ← known_iff]
  constructor
  · rintro ⟨⟨child, parent?⟩, listed, made⟩
    cases parent? with
    | none =>
        contradiction
    | some named =>
        dsimp only at made
        split at made
        case isTrue =>
          contradiction
        case isFalse unknown =>
          cases made
          exact ⟨listed, unknown⟩
  · rintro ⟨listed, unknown⟩
    exact ⟨(id, some parent), listed, by simp [unknown]⟩

/-- No parent is missing exactly when every parent that a group names is listed. -/
theorem missing_eq_nil_iff :
    parents.missing = [] ↔ parents.Closed := by
  rw [List.eq_nil_iff_forall_not_mem]
  constructor
  · intro none id parent listed
    by_contra unknown
    exact none (id, parent) (mem_missing.mpr ⟨listed, unknown⟩)
  · rintro closed ⟨id, parent⟩ member
    obtain ⟨listed, unknown⟩ := mem_missing.mp member
    exact unknown (closed id parent listed)

/-- The groups whose parents are missing come in ascending order. -/
theorem missing_pairwise
    (parents : Parents) :
    parents.missing.Pairwise fun left right => ¬ right.1 < left.1 := by
  unfold missing
  have sorted :=
    List.pairwise_mergeSort
      (fun first second third : String × String =>
        Text.atMost_trans first.1 second.1 third.1)
      (fun left right => Text.atMost_total left.1 right.1)
  exact (sorted _).imp Text.atMost_iff.mp

/-- Different groups miss their parents in strictly ascending order. -/
theorem missing_strictlyAscending
    (distinct : (parents.map Prod.fst).Nodup) :
    Text.StrictlyAscending (parents.missing.map Prod.fst) := by
  have orphansDistinct : (parents.missing.map Prod.fst).Nodup := by
    unfold missing
    refine ((List.mergeSort_perm _ _).map Prod.fst).nodup_iff.mpr ?_
    refine List.pairwise_map.mpr (List.pairwise_filterMap.mpr
      ((List.pairwise_map.mp distinct).imp ?_))
    rintro ⟨id, parent?⟩ ⟨otherId, other?⟩ apart orphan made other otherMade
    have sameId : orphan.1 = id := by grind
    have sameOther : other.1 = otherId := by grind
    rw [sameId, sameOther]
    exact apart
  refine List.pairwise_map.mpr (((missing_pairwise parents).and
    (List.pairwise_map.mp orphansDistinct)).imp ?_)
  rintro left right ⟨notMore, different⟩
  exact (Text.lt_or_lt_of_ne different).resolve_right notMore

/--
There is no defect exactly when all identifiers differ, every parent is listed
and no group is its own ancestor.
-/
theorem defect?_eq_none_iff :
    parents.defect? = none ↔
      (parents.map Prod.fst).Nodup ∧
        parents.Closed ∧
        ∀ id, ¬ parents.HasAncestor id id := by
  have checked :
      parents.defect? = none ↔
        parents.duplicates = [] ∧ parents.missing = [] ∧ parents.cycles = [] := by
    unfold defect?
    cases parents.duplicates <;> cases parents.missing <;>
      cases parents.cycles <;> simp
  rw [checked, duplicates_eq_nil_iff, missing_eq_nil_iff]
  -- What the cycles are is known only once the other checks have passed.
  refine and_congr_right fun distinct => and_congr_right fun closed => ?_
  exact (listsCycles_cycles distinct closed).eq_nil_iff

/-- A hierarchy without a defect is sound. -/
theorem sound_of_defect?_eq_none
    (noDefect : parents.defect? = none) :
    parents.Sound := by
  obtain ⟨distinct, closed, acyclic⟩ := defect?_eq_none_iff.mp noDefect
  exact ⟨distinct, fun id known => closed.grounded acyclic known⟩

end Parents

/-- The place of a group in a hierarchy. -/
def Hierarchy.place
    (hierarchy : Hierarchy)
    (id : String) :
    Place :=
  ((hierarchy.depth? id).getD 0, id)

namespace GroupSet

/-- The groups, and the rules of each group, are few enough. -/
structure FitsIn
    (groupSet : GroupSet)
    (limits : CapacityLimits) :
    Prop where
  groups : ∀ limit ∈ limits.groups?, groupSet.groups.length ≤ limit
  rules :
    ∀ limit ∈ limits.rulesPerGroup?,
      ∀ group ∈ groupSet.groups, group.rules.length ≤ limit

/-- A group set exceeds no limit exactly when it fits in the limits. -/
theorem excess?_eq_none_iff
    {groupSet : GroupSet}
    {limits : CapacityLimits} :
    groupSet.excess? limits = none ↔ groupSet.FitsIn limits := by
  unfold excess?
  rw [Option.or_eq_none_iff, Option.bind_eq_none_iff,
    Option.bind_eq_none_iff]
  constructor
  · rintro ⟨fewGroups, fewRules⟩
    exact ⟨by simpa using fewGroups, by simpa using fewRules⟩
  · rintro ⟨fewGroups, fewRules⟩
    exact ⟨by simpa using fewGroups, by simpa using fewRules⟩

/-- Exactly the group sets within the limits and without a defect are accepted. -/
theorem validate_eq_ok_iff
    {groupSet : GroupSet}
    {limits : CapacityLimits}
    {hierarchy : Hierarchy} :
    groupSet.validate limits = .ok hierarchy ↔
      groupSet.excess? limits = none ∧
        groupSet.parents.defect? = none ∧
        groupSet.hierarchy = hierarchy := by
  unfold validate
  cases groupSet.excess? limits with
  | some excess =>
      simp
  | none =>
      cases groupSet.parents.defect? with
      | some defect =>
          simp
      | none =>
          simp

theorem sound_of_validate
    {groupSet : GroupSet}
    {limits : CapacityLimits}
    {hierarchy : Hierarchy}
    (accepted : groupSet.validate limits = .ok hierarchy) :
    groupSet.parents.Sound :=
  Parents.sound_of_defect?_eq_none (validate_eq_ok_iff.mp accepted).2.1

theorem hierarchy_of_validate
    {groupSet : GroupSet}
    {limits : CapacityLimits}
    {hierarchy : Hierarchy}
    (accepted : groupSet.validate limits = .ok hierarchy) :
    hierarchy = groupSet.hierarchy :=
  (validate_eq_ok_iff.mp accepted).2.2.symm

theorem map_fst_parents
    (groupSet : GroupSet) :
    groupSet.parents.map Prod.fst = groupSet.groups.map (·.id) := by
  simp [parents]

variable {groupSet : GroupSet}

theorem nodup_map_id
    (sound : groupSet.parents.Sound) :
    (groupSet.groups.map (·.id)).Nodup := by
  rw [← map_fst_parents]
  exact sound.distinct

theorem nodup_groups
    (sound : groupSet.parents.Sound) :
    groupSet.groups.Nodup :=
  List.Nodup.of_map _ (nodup_map_id sound)

theorem mem_parents
    {group : Group}
    (member : group ∈ groupSet.groups) :
    (group.id, group.parent?) ∈ groupSet.parents :=
  List.mem_map_of_mem member

/-- In a sound hierarchy a group is found under its identifier. -/
theorem find?_eq_some_iff
    (sound : groupSet.parents.Sound)
    {id : String}
    {group : Group} :
    groupSet.find? id = some group ↔
      group ∈ groupSet.groups ∧ group.id = id := by
  have distinct := nodup_map_id sound
  unfold GroupSet.find?
  constructor
  · intro found
    have same := List.find?_some found
    exact ⟨List.mem_of_find?_eq_some found, eq_of_beq same⟩
  · rintro ⟨member, rfl⟩
    obtain ⟨before, after, shape⟩ := List.append_of_mem member
    refine List.find?_eq_some_iff_append.mpr
      ⟨by simp, before, after, shape, ?_⟩
    intro other inBefore
    rw [shape, List.map_append, List.map_cons] at distinct
    have apart := (List.nodup_append.mp distinct).2.2
    have different :=
      apart other.id (List.mem_map_of_mem inBefore) group.id (by simp)
    simpa using different

theorem find?_of_mem
    (sound : groupSet.parents.Sound)
    {group : Group}
    (member : group ∈ groupSet.groups) :
    groupSet.find? group.id = some group :=
  (find?_eq_some_iff sound).mpr ⟨member, rfl⟩

/-- In a sound hierarchy groups with one identifier are one group. -/
theorem eq_of_id_eq
    (sound : groupSet.parents.Sound)
    {group other : Group}
    (member : group ∈ groupSet.groups)
    (otherMember : other ∈ groupSet.groups)
    (sameId : group.id = other.id) :
    group = other := by
  have found := find?_of_mem sound member
  rw [sameId, find?_of_mem sound otherMember] at found
  exact (Option.some.inj found).symm

theorem nodup_map_fst_depths
    (sound : groupSet.parents.Sound) :
    (groupSet.hierarchy.depths.map Prod.fst).Nodup :=
  sound.map_fst_depths_perm.nodup_iff.mpr sound.distinct

/-- The depths that the hierarchy gives are those of the parent links. -/
theorem depth?_eq_some_iff
    (sound : groupSet.parents.Sound)
    {id : String}
    {depth : Nat} :
    groupSet.hierarchy.depth? id = some depth ↔
      groupSet.parents.HasDepth id depth := by
  unfold Hierarchy.depth?
  rw [Entries.lookup_eq_some_iff_mem (nodup_map_fst_depths sound)]
  exact sound.mem_depths

theorem grounded_of_mem
    (sound : groupSet.parents.Sound)
    {group : Group}
    (member : group ∈ groupSet.groups) :
    groupSet.parents.Grounded group.id :=
  sound.grounded group.id (List.mem_map_of_mem (mem_parents member))

/-- In a sound hierarchy every group has a depth. -/
theorem exists_depth
    (sound : groupSet.parents.Sound)
    {group : Group}
    (member : group ∈ groupSet.groups) :
    ∃ depth,
      groupSet.hierarchy.depth? group.id = some depth ∧
        groupSet.parents.HasDepth group.id depth := by
  obtain ⟨depth, stands⟩ := grounded_of_mem sound member
  exact ⟨depth, (depth?_eq_some_iff sound).mpr stands, stands⟩

theorem hasDepth_place
    (sound : groupSet.parents.Sound)
    {group : Group}
    (member : group ∈ groupSet.groups) :
    groupSet.parents.HasDepth group.id
      (groupSet.hierarchy.place group.id).1 := by
  obtain ⟨depth, found, stands⟩ := exists_depth sound member
  simpa [Hierarchy.place, found] using stands

theorem order_perm
    (sound : groupSet.parents.Sound) :
    groupSet.hierarchy.order.Perm (groupSet.groups.map (·.id)) := by
  have sorted :=
    (List.mergeSort_perm groupSet.hierarchy.depths
      Parents.comesBefore).map Prod.fst
  rw [← map_fst_parents]
  exact sorted.trans sound.map_fst_depths_perm

/-- The order of a sound hierarchy is that of the places. -/
theorem order_pairwise
    (sound : groupSet.parents.Sound) :
    groupSet.hierarchy.order.Pairwise fun left right =>
      Place.Before (groupSet.hierarchy.place left)
        (groupSet.hierarchy.place right) := by
  have distinct := nodup_map_fst_depths sound
  have placesDistinct :
      (groupSet.hierarchy.depths.map
        fun entry => (entry.2, entry.1)).Nodup := by
    have back :
        (groupSet.hierarchy.depths.map
            fun entry => (entry.2, entry.1)).map Prod.snd =
          groupSet.hierarchy.depths.map Prod.fst := by
      simp
    rw [← back] at distinct
    exact List.Nodup.of_map Prod.snd distinct
  have sorted :=
    Place.pairwise_before_mergeSort
      (fun entry : String × Nat => (entry.2, entry.1)) placesDistinct
  refine List.pairwise_map.mpr (sorted.imp_of_mem ?_)
  intro left right leftListed rightListed before
  have placeOf :
      ∀ entry ∈ groupSet.hierarchy.depths,
        groupSet.hierarchy.place entry.1 = (entry.2, entry.1) := by
    intro entry listed
    have found : groupSet.hierarchy.depth? entry.1 = some entry.2 :=
      (Entries.lookup_eq_some_iff_mem distinct).mpr listed
    simp [Hierarchy.place, found]
  rw [placeOf left (List.mem_mergeSort.mp leftListed),
    placeOf right (List.mem_mergeSort.mp rightListed)]
  exact before

/-- The groups in the order of the hierarchy. -/
def ordered (groupSet : GroupSet) : List Group :=
  groupSet.hierarchy.order.filterMap groupSet.find?

/--
In a sound hierarchy the groups along the order carry the identifiers of the
order.
-/
theorem map_id_ordered
    (sound : groupSet.parents.Sound) :
    groupSet.ordered.map (·.id) = groupSet.hierarchy.order := by
  have found :
      ∀ id ∈ groupSet.hierarchy.order,
        (groupSet.find? id).map (·.id) = some id := by
    intro id listed
    obtain ⟨group, member, sameId⟩ :=
      List.mem_map.mp ((order_perm sound).mem_iff.mp listed)
    rw [← sameId, find?_of_mem sound member]
    rfl
  unfold ordered
  rw [List.map_filterMap, List.filterMap_congr found]
  exact List.filterMap_some

/-- Going along the order reaches every group once. -/
theorem ordered_perm
    (sound : groupSet.parents.Sound) :
    groupSet.ordered.Perm groupSet.groups := by
  have orderedDistinct : (groupSet.ordered.map (·.id)).Nodup := by
    rw [map_id_ordered sound]
    exact (order_perm sound).nodup_iff.mpr (nodup_map_id sound)
  refine (List.perm_ext_iff_of_nodup
    (List.Nodup.of_map _ orderedDistinct) (nodup_groups sound)).mpr ?_
  intro group
  unfold ordered
  rw [List.mem_filterMap]
  constructor
  · rintro ⟨id, _, found⟩
    exact ((find?_eq_some_iff sound).mp found).1
  · intro member
    have listed : group.id ∈ groupSet.hierarchy.order :=
      (order_perm sound).mem_iff.mpr (List.mem_map_of_mem member)
    exact ⟨group.id, listed, find?_of_mem sound member⟩

/-- Along the order the places of the groups ascend. -/
theorem ordered_pairwise
    (sound : groupSet.parents.Sound) :
    groupSet.ordered.Pairwise fun left right =>
      Place.Before (groupSet.hierarchy.place left.id)
        (groupSet.hierarchy.place right.id) := by
  have idsOrdered := order_pairwise sound
  rw [← map_id_ordered sound, List.pairwise_map] at idsOrdered
  exact idsOrdered

end GroupSet

end FleetConfig
