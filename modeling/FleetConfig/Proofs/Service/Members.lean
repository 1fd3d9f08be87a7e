import FleetConfig.Proofs.Service.Classification

/-!
# The nodes in a group

The nodes in a group are found by holding each node against that group alone; no
hierarchy and no other group has a part in it.  A classification holds a node
against all groups in order of their places.  Both find the same, so the group
lists the nodes whose classifications list the group.
-/

namespace FleetConfig

namespace Direct

variable {settings : Settings} {node : Node} {groupSet : GroupSet}

/-- It is decided that a node belongs to a group. -/
def Belongs
    (settings : Settings)
    (node : Node)
    (group : Group) :
    Prop :=
  ∃ membership,
    Direct.membership settings node group = .ok membership ∧
      membership.holds = true

theorem belongs_iff
    {group : Group}
    {membership : Membership}
    (judged : Direct.membership settings node group = .ok membership) :
    Belongs settings node group ↔ membership.holds = true := by
  constructor
  · rintro ⟨other, otherJudged, holds⟩
    cases judged.symm.trans otherJudged
    exact holds
  · intro holds
    exact ⟨membership, judged, holds⟩

/-- A node that is decided on is resolved unless its groups cannot be merged. -/
theorem resolve_cases
    (sound : groupSet.parents.Sound)
    {verdict : Group → Membership}
    (judged :
      ∀ group ∈ groupSet.groups,
        Direct.membership settings node group = .ok (verdict group)) :
    (∃ merged,
        resolve settings node groupSet groupSet.hierarchy =
          .ok (configuration node groupSet.version
            (findings groupSet.hierarchy verdict groupSet.ordered)
            merged)) ∨
      ∃ error,
        resolve settings node groupSet groupSet.hierarchy =
          .error (.merge error) := by
  rw [resolve_of_judged sound judged]
  cases
    mergeGroups (groupSet.ordered.filter fun group => (verdict group).holds)
      groupSet.hierarchy node.environment? with
  | ok merged =>
      exact .inl ⟨merged, rfl⟩
  | error error =>
      exact .inr ⟨error, rfl⟩

end Direct

namespace Engine

variable {settings : Settings}
  {groupSet : GroupSet}
  {hierarchy : Hierarchy}
  {nodes : List Node}

/-- Under an accepted group set with text keys a node has a classification. -/
theorem exists_classifyAlone
    (accepted : groupSet.validate (limits settings) = .ok hierarchy)
    (meters : Meters)
    {node : Node}
    (judged :
      ∀ group ∈ groupSet.groups, ∃ membership,
        Direct.membership settings node group = .ok membership)
    (textKeys : ∀ group ∈ groupSet.groups, group.HasTextKeys) :
    ∃ resolved,
      classifyAlone settings meters node groupSet = .ok resolved := by
  unfold classifyAlone
  rw [run_classify_fresh]
  exact Direct.exists_classify accepted judged textKeys

end Engine

end FleetConfig
