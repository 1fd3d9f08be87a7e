import FleetConfig.Proofs.Hierarchy.Acceptance
import FleetConfig.Proofs.Value.Lookup
import Mathlib

/-!
# What validation decides

Validation accepts a group set exactly when it fits in the limits and nothing is
wrong with its structure, and then describes it.  Otherwise the first condition
that is violated decides the error, which names all that violate it.
-/

namespace FleetConfig

/-- A hierarchy gives a group set's version, parents, depths and order of groups. -/
structure Hierarchy.Describes
    (hierarchy : Hierarchy)
    (groupSet : GroupSet) :
    Prop where
  version : hierarchy.version = groupSet.version
  parents :
    hierarchy.parents =
      groupSet.groups.map fun group => (group.id, group.parent?)
  depthsOnce : (hierarchy.depths.map Prod.fst).Perm groupSet.ids
  root :
    ∀ group ∈ groupSet.groups,
      group.parent? = none → hierarchy.depth? group.id = some 0
  child :
    ∀ group ∈ groupSet.groups, ∀ parent ∈ group.parent?,
      ∃ depth,
        hierarchy.depth? parent = some depth ∧
          hierarchy.depth? group.id = some (depth + 1)
  orderOnce : hierarchy.order.Perm groupSet.ids
  ordered :
    hierarchy.order.Pairwise fun left right =>
      Place.Before (hierarchy.place left) (hierarchy.place right)

/-- The context of a report is what was given and what its kind adds. -/
theorem ErrorReport.context_of
    {kind : ErrorKind}
    {given : Fields}
    (message : String)
    (distinct : ((given ++ kind.details).map Prod.fst).Nodup) :
    (ErrorReport.of kind message given).context = given ++ kind.details :=
  Fields.overlay_of_disjoint distinct

/--
Cycles are reported with the groups that are their own ancestors, in ascending
order.
-/
theorem Parents.ListsCycles.exists_context
    {parents : Parents}
    {paths : List (List String)}
    (lists : parents.ListsCycles paths) :
    ∃ ids,
      (HierarchyDefect.cycles paths).report.context =
          [("cycles", .list (paths.map .texts)),
            ("group_ids", .texts ids)] ∧
        Text.StrictlyAscending ids ∧
        ∀ id, id ∈ ids ↔ parents.HasAncestor id id := by
  refine ⟨Text.distinctAscending paths.flatten, ?_,
    Text.distinctAscending_strictlyAscending _, ?_⟩
  · rw [HierarchyDefect.report, ErrorReport.context_of _ (by
      simp [ErrorKind.details])]
    rfl
  · intro id
    rw [Text.mem_distinctAscending, List.mem_flatten]
    exact lists.members id

namespace GroupSet

/-- Every parent that a group names is a group. -/
def KnowsParents (groupSet : GroupSet) : Prop :=
  ∀ group ∈ groupSet.groups, ∀ parent ∈ group.parent?,
    parent ∈ groupSet.ids

/-- The limit that is exceeded first, with the context in which it is reported. -/
inductive FirstExcess
    (groupSet : GroupSet)
    (limits : CapacityLimits) :
    CapacityExcess → Fields → Prop where
  | groups
      {limit : Int}
      (isSet : limits.groups? = some limit)
      (isOver : limit < groupSet.groups.length) :
      FirstExcess groupSet limits
        (.groups groupSet.groups.length limit)
        [("limit_name", .text "max_groups"),
          ("limit", .integer limit),
          ("actual", .integer groupSet.groups.length)]
  | rules
      {limit : Int}
      {before after : List Group}
      {group : Group}
      (fewGroups : ∀ limit ∈ limits.groups?, groupSet.groups.length ≤ limit)
      (isSet : limits.rulesPerGroup? = some limit)
      (shape : groupSet.groups = before ++ group :: after)
      (fewBefore : ∀ earlier ∈ before, earlier.rules.length ≤ limit)
      (isOver : limit < group.rules.length) :
      FirstExcess groupSet limits
        (.rules group.id group.rules.length limit)
        [("group_id", .text group.id),
          ("limit_name", .text "max_rules_per_group"),
          ("limit", .integer limit),
          ("actual", .integer group.rules.length)]

/-- What is wrong first with the structure, with the context in which it is reported. -/
inductive FirstDefect (groupSet : GroupSet) :
    HierarchyDefect → Fields → Prop where
  | duplicateGroups
      {ids : List String}
      (repeated : ¬ groupSet.ids.Nodup)
      (ascends : Text.StrictlyAscending ids)
      (exact : ∀ id, id ∈ ids ↔ 1 < groupSet.ids.count id) :
      FirstDefect groupSet (.duplicateGroups ids)
        [("group_ids", .texts ids)]
  | unknownParents
      {missing : List (String × String)}
      (distinct : groupSet.ids.Nodup)
      (unknown : ¬ groupSet.KnowsParents)
      (ascends : Text.StrictlyAscending (missing.map Prod.fst))
      (exact :
        ∀ id parent,
          (id, parent) ∈ missing ↔
            ∃ group ∈ groupSet.groups,
              group.id = id ∧
                group.parent? = some parent ∧
                parent ∉ groupSet.ids) :
      FirstDefect groupSet (.unknownParents missing)
        [("missing_parents",
          .ofFields (missing.map fun (id, parent) => (id, .text parent)))]
  | cycles
      {paths : List (List String)}
      {ids : List String}
      (distinct : groupSet.ids.Nodup)
      (known : groupSet.KnowsParents)
      (cyclic : ∃ id, groupSet.parents.HasAncestor id id)
      (lists : groupSet.parents.ListsCycles paths)
      (ascends : Text.StrictlyAscending ids)
      (exact : ∀ id, id ∈ ids ↔ groupSet.parents.HasAncestor id id) :
      FirstDefect groupSet (.cycles paths)
        [("cycles", .list (paths.map .texts)),
          ("group_ids", .texts ids)]

/--
What a group set violates first, with the context in which it is reported: the
limits come before the structure.
-/
inductive FirstViolation
    (groupSet : GroupSet)
    (limits : CapacityLimits) :
    HierarchyError → Fields → Prop where
  | capacity
      {excess : CapacityExcess}
      {context : Fields}
      (first : groupSet.FirstExcess limits excess context) :
      FirstViolation groupSet limits (.capacity excess) context
  | defect
      {found : HierarchyDefect}
      {context : Fields}
      (fits : groupSet.FitsIn limits)
      (first : groupSet.FirstDefect found context) :
      FirstViolation groupSet limits (.defect found) context

variable {groupSet : GroupSet} {limits : CapacityLimits}

theorem closed_parents_iff :
    groupSet.parents.Closed ↔ groupSet.KnowsParents := by
  unfold Parents.Closed
  rw [map_fst_parents]
  constructor
  · intro closed group member parent named
    have listed := mem_parents member
    rw [Option.mem_def.mp named] at listed
    exact closed group.id parent listed
  · intro known id parent listed
    obtain ⟨group, member, same⟩ := List.mem_map.mp listed
    exact known group member parent (Prod.mk.inj same).2

theorem nodup_parents_iff :
    (groupSet.parents.map Prod.fst).Nodup ↔ groupSet.ids.Nodup := by
  rw [map_fst_parents]
  rfl

theorem duplicates_parents_eq_nil_iff :
    groupSet.parents.duplicates = [] ↔ groupSet.ids.Nodup :=
  Parents.duplicates_eq_nil_iff.trans nodup_parents_iff

theorem missing_parents_eq_nil_iff :
    groupSet.parents.missing = [] ↔ groupSet.KnowsParents :=
  Parents.missing_eq_nil_iff.trans closed_parents_iff

/-- Where all groups differ and know their parents, the search finds all cycles. -/
theorem listsCycles_parents
    (distinct : groupSet.ids.Nodup)
    (known : groupSet.KnowsParents) :
    groupSet.parents.ListsCycles groupSet.parents.cycles :=
  Parents.listsCycles_cycles (nodup_parents_iff.mpr distinct)
    (closed_parents_iff.mpr known)

/-- A group set is accepted exactly when it violates nothing. -/
theorem exists_validate_eq_ok_iff :
    (∃ hierarchy, groupSet.validate limits = .ok hierarchy) ↔
      groupSet.FitsIn limits ∧
        groupSet.ids.Nodup ∧
        groupSet.KnowsParents ∧
        ∀ id, ¬ groupSet.parents.HasAncestor id id := by
  simp only [validate_eq_ok_iff, excess?_eq_none_iff,
    Parents.defect?_eq_none_iff, nodup_parents_iff, closed_parents_iff]
  constructor
  · rintro ⟨_, fits, structured, _⟩
    exact ⟨fits, structured⟩
  · rintro ⟨fits, structured⟩
    exact ⟨groupSet.hierarchy, fits, structured, rfl⟩

/-- The hierarchy of a sound group set describes it. -/
theorem describes_hierarchy
    (sound : groupSet.parents.Sound) :
    groupSet.hierarchy.Describes groupSet := by
  constructor
  case version =>
    rfl
  case parents =>
    rfl
  case depthsOnce =>
    have depths := sound.map_fst_depths_perm
    rw [map_fst_parents] at depths
    exact depths
  case root =>
    intro group member noParent
    have listed := mem_parents member
    rw [noParent] at listed
    exact (depth?_eq_some_iff sound).mpr (.root listed)
  case child =>
    intro group member parent named
    have listed := mem_parents member
    rw [Option.mem_def.mp named] at listed
    obtain ⟨depth, stands⟩ :=
      sound.grounded parent (sound.closed group.id parent listed)
    exact ⟨depth, (depth?_eq_some_iff sound).mpr stands,
      (depth?_eq_some_iff sound).mpr (.child listed stands)⟩
  case orderOnce =>
    exact order_perm sound
  case ordered =>
    exact order_pairwise sound

/-- The first limit that is exceeded is reported for the first group that exceeds it. -/
theorem firstExcess_of_excess?_eq_some
    {excess : CapacityExcess}
    (found : groupSet.excess? limits = some excess) :
    groupSet.FirstExcess limits excess excess.report.context := by
  unfold excess? at found
  rcases Option.or_eq_some_iff.mp found with tooMany | ⟨notTooMany, tooManyRules⟩
  · obtain ⟨limit, isSet, exceeds⟩ := Option.bind_eq_some_iff.mp tooMany
    obtain ⟨isOver, ⟨⟩⟩ := Option.ite_none_right_eq_some.mp exceeds
    rw [CapacityExcess.report, ErrorReport.context_of _ (by
      simp [ErrorKind.details])]
    exact .groups isSet isOver
  · obtain ⟨limit, isSet, exceeds⟩ := Option.bind_eq_some_iff.mp tooManyRules
    obtain ⟨group, first, rfl⟩ := Option.map_eq_some_iff.mp exceeds
    obtain ⟨isOver, before, after, shape, fewBefore⟩ :=
      List.find?_eq_some_iff_append.mp first
    have fewGroups :
        ∀ limit ∈ limits.groups?, groupSet.groups.length ≤ limit := by
      simpa [Option.bind_eq_none_iff] using notTooMany
    rw [CapacityExcess.report, ErrorReport.context_of _ (by
      simp [ErrorKind.details])]
    exact .rules fewGroups isSet shape (by simpa using fewBefore)
      (by simpa using isOver)

/-- Unknown parents are missing in the parents of the groups. -/
theorem mem_missing_parents
    {id parent : String} :
    (id, parent) ∈ groupSet.parents.missing ↔
      ∃ group ∈ groupSet.groups,
        group.id = id ∧
          group.parent? = some parent ∧
          parent ∉ groupSet.ids := by
  rw [Parents.mem_missing, map_fst_parents]
  constructor
  · rintro ⟨links, unknown⟩
    obtain ⟨group, member, same⟩ := List.mem_map.mp links
    obtain ⟨sameId, named⟩ := Prod.mk.inj same
    exact ⟨group, member, sameId, named, unknown⟩
  · rintro ⟨group, member, rfl, named, unknown⟩
    have listed := mem_parents member
    rw [named] at listed
    exact ⟨listed, unknown⟩

/-- Duplicates are reported with all identifiers that occur more than once. -/
theorem firstDefect_duplicateGroups
    (repeated : ¬ groupSet.ids.Nodup) :
    groupSet.FirstDefect (.duplicateGroups groupSet.parents.duplicates)
      (HierarchyDefect.duplicateGroups
        groupSet.parents.duplicates).report.context := by
  have ascends := groupSet.parents.duplicates_strictlyAscending
  have shown :
      ErrorKind.details (.duplicateGroups groupSet.parents.duplicates) =
        [("group_ids", .texts groupSet.parents.duplicates)] := by
    simp [ErrorKind.details, ErrorKind.groupIds?, ascends.ascending_eq]
  have exactly :
      ∀ id, id ∈ groupSet.parents.duplicates ↔ 1 < groupSet.ids.count id := by
    intro id
    rw [Parents.mem_duplicates, map_fst_parents]
    rfl
  rw [HierarchyDefect.report, ErrorReport.context_of _ (by
    simp [ErrorKind.details]), shown]
  exact .duplicateGroups repeated ascends exactly

/-- Unknown parents are reported for all groups that name one. -/
theorem firstDefect_unknownParents
    (distinct : groupSet.ids.Nodup)
    (unknown : ¬ groupSet.KnowsParents) :
    groupSet.FirstDefect (.unknownParents groupSet.parents.missing)
      (HierarchyDefect.unknownParents
        groupSet.parents.missing).report.context := by
  have ascends :=
    Parents.missing_strictlyAscending (nodup_parents_iff.mpr distinct)
  rw [HierarchyDefect.report, ErrorReport.context_of _ (by
    simp [ErrorKind.details])]
  exact .unknownParents distinct unknown ascends fun _ _ =>
    mem_missing_parents

/-- Cycles are reported if there are any. -/
theorem firstDefect_cycles
    (distinct : groupSet.ids.Nodup)
    (known : groupSet.KnowsParents)
    (found : groupSet.parents.cycles ≠ []) :
    groupSet.FirstDefect (.cycles groupSet.parents.cycles)
      (HierarchyDefect.cycles groupSet.parents.cycles).report.context := by
  have lists := listsCycles_parents distinct known
  have cyclic : ∃ id, groupSet.parents.HasAncestor id id := by
    by_contra acyclic
    exact found (lists.eq_nil_iff.mpr (not_exists.mp acyclic))
  obtain ⟨ids, shown, ascends, exactly⟩ := lists.exists_context
  rw [shown]
  exact .cycles distinct known cyclic lists ascends exactly

/-- What is wrong first with the structure is reported with all that is wrong in its way. -/
theorem firstDefect_of_defect?_eq_some
    {defect : HierarchyDefect}
    (found : groupSet.parents.defect? = some defect) :
    groupSet.FirstDefect defect defect.report.context := by
  unfold Parents.defect? at found
  split at found
  case isTrue duplicates =>
    cases found
    apply firstDefect_duplicateGroups
    rw [← duplicates_parents_eq_nil_iff]
    simpa using duplicates
  case isFalse noDuplicate =>
    have distinct : groupSet.ids.Nodup :=
      duplicates_parents_eq_nil_iff.mp (by simpa using noDuplicate)
    split at found
    case isTrue missing =>
      cases found
      apply firstDefect_unknownParents distinct
      rw [← missing_parents_eq_nil_iff]
      simpa using missing
    case isFalse noMissing =>
      have known : groupSet.KnowsParents :=
        missing_parents_eq_nil_iff.mp (by simpa using noMissing)
      split at found
      case isTrue cycles =>
        cases found
        exact firstDefect_cycles distinct known (by simpa using cycles)
      case isFalse noCycle =>
        contradiction

/-- A group set that is rejected is rejected for what it violates first. -/
theorem firstViolation_of_validate
    {error : HierarchyError}
    (rejected : groupSet.validate limits = .error error) :
    groupSet.FirstViolation limits error error.report.context := by
  unfold validate at rejected
  split at rejected
  case h_1 excess exceeds =>
    cases rejected
    exact .capacity (firstExcess_of_excess?_eq_some exceeds)
  case h_2 fits =>
    split at rejected
    case h_1 defect found =>
      cases rejected
      exact .defect (excess?_eq_none_iff.mp fits)
        (firstDefect_of_defect?_eq_some found)
    case h_2 =>
      contradiction

/--
Validation accepts exactly the group sets that violate nothing and describes
them; of others it reports what they violate first.
-/
theorem validate_decides
    (groupSet : GroupSet)
    (limits : CapacityLimits) :
    ((∃ hierarchy, groupSet.validate limits = .ok hierarchy) ↔
        groupSet.FitsIn limits ∧
          groupSet.ids.Nodup ∧
          groupSet.KnowsParents ∧
          ∀ id, ¬ groupSet.parents.HasAncestor id id) ∧
      (∀ hierarchy,
        groupSet.validate limits = .ok hierarchy →
          hierarchy.Describes groupSet) ∧
      ∀ error,
        groupSet.validate limits = .error error →
          groupSet.FirstViolation limits error error.report.context := by
  refine ⟨exists_validate_eq_ok_iff, ?_, ?_⟩
  · intro hierarchy accepted
    rw [hierarchy_of_validate accepted]
    exact describes_hierarchy (sound_of_validate accepted)
  · intro error rejected
    exact firstViolation_of_validate rejected

/-- Where all groups differ and know their parents, only cycles can be a defect. -/
theorem validate_eq_cycles_iff
    (distinct : groupSet.ids.Nodup)
    (known : groupSet.KnowsParents)
    {paths : List (List String)} :
    groupSet.validate limits = .error (.defect (.cycles paths)) ↔
      groupSet.FitsIn limits ∧
        groupSet.parents.cycles ≠ [] ∧
        groupSet.parents.cycles = paths := by
  have noDuplicate := duplicates_parents_eq_nil_iff.mpr distinct
  have noMissing := missing_parents_eq_nil_iff.mpr known
  have defect :
      groupSet.parents.defect? =
        if groupSet.parents.cycles = [] then
          none
        else
          some (.cycles groupSet.parents.cycles) := by
    simp [Parents.defect?, noDuplicate, noMissing]
  rw [← excess?_eq_none_iff, validate, defect]
  cases groupSet.excess? limits with
  | some excess =>
      simp
  | none =>
      by_cases noCycle : groupSet.parents.cycles = []
      · simp [noCycle]
      · simp [noCycle]

/--
Where all groups differ and know their parents, the cycles that are reported are
all that there are, with all groups that lie on them and no other.  The search
finds none exactly when every way up ends at a root.
-/
theorem validate_listsCycles
    (groupSet : GroupSet)
    (limits : CapacityLimits)
    (distinct : groupSet.ids.Nodup)
    (known : groupSet.KnowsParents) :
    (∀ paths,
        groupSet.validate limits = .error (.defect (.cycles paths)) →
          groupSet.parents.ListsCycles paths ∧
            ∃ ids,
              (HierarchyDefect.cycles paths).report.context =
                  [("cycles", .list (paths.map .texts)),
                    ("group_ids", .texts ids)] ∧
                Text.StrictlyAscending ids ∧
                ∀ id, id ∈ ids ↔ groupSet.parents.HasAncestor id id) ∧
      ((∃ paths,
          groupSet.validate limits = .error (.defect (.cycles paths))) ↔
        groupSet.FitsIn limits ∧ groupSet.parents.cycles ≠ []) ∧
      (groupSet.parents.cycles = [] ↔
        ∀ id ∈ groupSet.ids, groupSet.parents.Grounded id) := by
  have lists := listsCycles_parents distinct known
  refine ⟨?_, ?_, ?_⟩
  · intro paths rejected
    obtain ⟨_, _, rfl⟩ := (validate_eq_cycles_iff distinct known).mp rejected
    exact ⟨lists, lists.exists_context⟩
  · simp only [validate_eq_cycles_iff distinct known]
    constructor
    · rintro ⟨_, fits, cyclic, _⟩
      exact ⟨fits, cyclic⟩
    · rintro ⟨fits, cyclic⟩
      exact ⟨_, fits, cyclic, rfl⟩
  · rw [lists.eq_nil_iff_grounded (nodup_parents_iff.mpr distinct)
      (closed_parents_iff.mpr known), map_fst_parents]
    rfl

end GroupSet

namespace Sample

/-- A group that names a parent. -/
def childOf
    (parent id : String) :
    Group :=
  { Group.empty id with parent? := some parent }

/-- A root, a circle of two groups with a tail of two, and a circle of one with a tail. -/
def circles : GroupSet :=
  ⟨[childOf "side" "end", childOf "b" "side", childOf "b" "a",
      childOf "a" "b", childOf "self" "self", childOf "self" "tail",
      Group.empty "root"],
    "v2"⟩

end Sample

/-- Both circles of the sample are reported, and their tails are not. -/
theorem GroupSet.validate_listsCycles_sample :
    Sample.circles.ids.Nodup ∧
      Sample.circles.KnowsParents ∧
      Sample.circles.validate ⟨none, none⟩ =
        .error (.defect (.cycles [["a", "b", "a"], ["self", "self"]])) ∧
      Sample.circles.parents.ListsCycles
        [["a", "b", "a"], ["self", "self"]] := by
  have distinct : Sample.circles.ids.Nodup := by
    decide
  have known : Sample.circles.KnowsParents := by
    unfold KnowsParents
    simp [Sample.circles, Sample.childOf, Group.empty, ids]
  have rejected :
      Sample.circles.validate ⟨none, none⟩ =
        .error (.defect (.cycles [["a", "b", "a"], ["self", "self"]])) := by
    cbv
  exact ⟨distinct, known, rejected,
    ((validate_listsCycles _ _ distinct known).1 _ rejected).1⟩

end FleetConfig
