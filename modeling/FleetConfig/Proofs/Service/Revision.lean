import FleetConfig.Proofs.Hierarchy.Revision
import FleetConfig.Proofs.Service.Classification

/-!
# Classification under revised groups

Groups are revised without a change to their outline or to who belongs to them.  Then
they are examined in the same order and at the same depths, so that a classification
under the revised groups runs through the same stages; only what is merged, and what
is told of each group, goes by the revised groups.
-/

namespace FleetConfig

theorem GroupSet.ordered_subset
    (groupSet : GroupSet) :
    groupSet.ordered ⊆ groupSet.groups := by
  intro group listed
  obtain ⟨id, _, found⟩ := List.mem_filterMap.mp listed
  exact List.mem_of_find?_eq_some found

namespace Direct

section Stages

variable {settings : Settings} {node : Node} {groupSet : GroupSet}

theorem classify_of_rejected
    {error : HierarchyError}
    (rejected : groupSet.validate (Engine.limits settings) = .error error) :
    classify settings node groupSet = .error (.rejected error) := by
  unfold classify
  rw [rejected]
  rfl

variable {hierarchy : Hierarchy}
  (accepted : groupSet.validate (Engine.limits settings) = .ok hierarchy)

include accepted

theorem classify_of_examine_error
    {failure : Failure}
    (fails :
      examine settings node groupSet.hierarchy groupSet.ordered =
        .error failure) :
    classify settings node groupSet = .error failure := by
  unfold classify
  rw [accepted, GroupSet.hierarchy_of_validate accepted]
  change examine settings node _ groupSet.ordered >>= _ = _
  rw [fails]
  rfl

theorem classify_of_examine
    {examined : List Engine.Examined}
    (found :
      examine settings node groupSet.hierarchy groupSet.ordered =
        .ok examined) :
    classify settings node groupSet =
      settleMerge node groupSet.version examined
        (mergeGroups (matched examined) groupSet.hierarchy
          node.environment?) := by
  unfold classify
  rw [accepted, GroupSet.hierarchy_of_validate accepted]
  change examine settings node _ groupSet.ordered >>= _ = _
  rw [found]
  exact resolve_examined node groupSet.version examined _

end Stages

/-- Groups that have been examined were all decided on. -/
theorem judged_of_examine
    {settings : Settings}
    {node : Node}
    {hierarchy : Hierarchy}
    {groups : List Group}
    {examined : List Engine.Examined}
    (given : examine settings node hierarchy groups = .ok examined) :
    ∀ group ∈ groups, ∃ membership,
      Direct.membership settings node group = .ok membership := by
  induction groups generalizing examined with
  | nil =>
      simp
  | cons group rest inductionHypothesis =>
      unfold examine at given
      cases decided : membership settings node group with
      | error failure =>
          rw [decided] at given
          contradiction
      | ok found =>
          rw [decided] at given
          cases restGiven : examine settings node hierarchy rest with
          | error failure =>
              rw [restGiven] at given
              contradiction
          | ok others =>
              exact List.forall_mem_cons.mpr
                ⟨⟨found, decided⟩, inductionHypothesis restGiven⟩

/-- What is found out about a group is told of the revised group. -/
def revisedFinding
    (revise : Group → Group)
    (rename : Group → Membership → Membership) :
    Engine.Examined → Engine.Examined
  | (group, depth, membership) =>
      (revise group, depth, rename group membership)

/--
A group set holds the groups of another one, revised: their outline is the same, and
so is for each of them whether and why the node belongs to it.
-/
structure Revises
    (settings : Settings)
    (node : Node)
    (other groupSet : GroupSet)
    (revise : Group → Group)
    (rename : Group → Membership → Membership) :
    Prop where
  groups : other.groups = groupSet.groups.map revise
  sameId : ∀ group ∈ groupSet.groups, (revise group).id = group.id
  sameOutline : other.outline = groupSet.outline
  membership :
    ∀ group ∈ groupSet.groups,
      Direct.membership settings node (revise group) =
        (Direct.membership settings node group).map (rename group)
  sameReason :
    ∀ group membership, (rename group membership).reason? = membership.reason?

namespace Revises

variable {settings : Settings}
  {node : Node}
  {groupSet other : GroupSet}
  {revise : Group → Group}
  {rename : Group → Membership → Membership}

/-- The revised groups are examined like the groups. -/
theorem examine
    (revises : Revises settings node other groupSet revise rename)
    {groups : List Group}
    (members : groups ⊆ groupSet.groups) :
    Direct.examine settings node other.hierarchy (groups.map revise) =
      (Direct.examine settings node groupSet.hierarchy groups).map
        (List.map (revisedFinding revise rename)) := by
  induction groups with
  | nil =>
      rfl
  | cons group rest inductionHypothesis =>
      have member : group ∈ groupSet.groups := members List.mem_cons_self
      have restExamined :=
        inductionHypothesis fun later listed =>
          members (List.mem_cons_of_mem group listed)
      rw [List.map_cons, Direct.examine, Direct.examine, restExamined,
        revises.membership group member, revises.sameId group member,
        GroupSet.depth?_eq_of_outline_eq revises.sameOutline]
      cases Direct.membership settings node group with
      | error failure =>
          rfl
      | ok membership =>
          cases Direct.examine settings node groupSet.hierarchy rest <;> rfl

theorem matched
    (revises : Revises settings node other groupSet revise rename)
    (examined : List Engine.Examined) :
    Direct.matched (examined.map (revisedFinding revise rename)) =
      (Direct.matched examined).map revise := by
  unfold Direct.matched
  rw [List.filter_map, List.map_map, List.map_map]
  refine congrArg₂ List.map rfl (List.filter_congr ?_)
  rintro ⟨group, depth, membership⟩ _
  simp only [Function.comp_apply, revisedFinding, Membership.holds,
    revises.sameReason]

/-- The revised groups are rejected for the same reason, or accepted as well. -/
theorem validate
    (revises : Revises settings node other groupSet revise rename) :
    other.validate (Engine.limits settings) =
      (groupSet.validate (Engine.limits settings)).map fun hierarchy =>
        { hierarchy with version := other.version } :=
  GroupSet.validate_eq_of_outline_eq revises.sameOutline (Engine.limits settings)

theorem examine_ordered
    (revises : Revises settings node other groupSet revise rename) :
    Direct.examine settings node other.hierarchy other.ordered =
      (Direct.examine settings node groupSet.hierarchy groupSet.ordered).map
        (List.map (revisedFinding revise rename)) := by
  rw [GroupSet.ordered_revised revises.groups revises.sameId revises.sameOutline]
  exact revises.examine groupSet.ordered_subset

section Accepted

variable {hierarchy : Hierarchy}
  (accepted : groupSet.validate (Engine.limits settings) = .ok hierarchy)

include accepted

theorem classify_of_examine_error
    (revises : Revises settings node other groupSet revise rename)
    {failure : Failure}
    (fails :
      Direct.examine settings node groupSet.hierarchy groupSet.ordered =
        .error failure) :
    classify settings node other = .error failure := by
  have otherAccepted := revises.validate
  rw [accepted] at otherAccepted
  apply Direct.classify_of_examine_error otherAccepted
  rw [revises.examine_ordered, fails]
  rfl

/-- What the revised groups set together decides the rest. -/
theorem classify_of_examine
    (revises : Revises settings node other groupSet revise rename)
    {examined : List Engine.Examined}
    (found :
      Direct.examine settings node groupSet.hierarchy groupSet.ordered =
        .ok examined) :
    classify settings node other =
      settleMerge node other.version
        (examined.map (revisedFinding revise rename))
        (mergeGroups ((Direct.matched examined).map revise) other.hierarchy
          node.environment?) := by
  have otherAccepted := revises.validate
  have otherFound := revises.examine_ordered
  rw [accepted] at otherAccepted
  rw [found] at otherFound
  rw [Direct.classify_of_examine otherAccepted otherFound, revises.matched]

end Accepted

end Revises

end Direct

end FleetConfig
