import FleetConfig.Proofs.Service.Breakdown
import FleetConfig.Proofs.Service.Revision
import FleetConfig.Proofs.Service.Session

/-!
# Failures that are foreseen

Callers are told that a group set may be rejected and that a group may not be there.
That groups cannot be merged because one of them has no place would count as such,
but never happens: hierarchies come from validation, and these place every group
in their order.  So once there is a hierarchy, only a task for a missing group fails
in a foreseen way.
-/

namespace FleetConfig

/-- Every group in the order has a depth. -/
def Hierarchy.IsComplete (hierarchy : Hierarchy) : Prop :=
  ∀ id ∈ hierarchy.order, ∃ depth, hierarchy.depth? id = some depth

theorem Hierarchy.isComplete_of_validate
    {groupSet : GroupSet}
    {limits : CapacityLimits}
    {hierarchy : Hierarchy}
    (accepted : groupSet.validate limits = .ok hierarchy) :
    hierarchy.IsComplete := by
  have sound := GroupSet.sound_of_validate accepted
  obtain rfl := GroupSet.hierarchy_of_validate accepted
  intro id listed
  obtain ⟨group, member, rfl⟩ :=
    List.mem_map.mp ((GroupSet.order_perm sound).subset listed)
  obtain ⟨depth, found, _⟩ := GroupSet.exists_depth sound member
  exact ⟨depth, found⟩

/-- What a cache gives is a hierarchy that validation has given. -/
theorem HierarchyCache.Remembers.isComplete_of_request
    {cache : HierarchyCache}
    {groupSets : List GroupSet}
    (remembers : cache.Remembers groupSets)
    {groupSet : GroupSet}
    {hierarchy : Hierarchy}
    (given : (cache.request groupSet).1 = .ok hierarchy) :
    hierarchy.IsComplete := by
  cases found : cache.recent.find? groupSet.version with
  | none =>
      rw [request_of_find?_eq_none found] at given
      exact Hierarchy.isComplete_of_validate given
  | some kept =>
      rw [request_of_find?_eq_some found] at given
      cases given
      obtain ⟨_, _, gives⟩ := remembers.exists_of_find? found
      exact Hierarchy.isComplete_of_validate gives.accepted

/--
Whether a failure is one that callers are told to expect: the group set is rejected
or a group is not there.
-/
def Failure.isForeseen : Failure → Bool
  | .rejected _ =>
      true
  | .groupNotFound _ =>
      true
  | .merge (.unknownGroup _) =>
      true
  | .merge .incomparableKeys =>
      false
  | .pattern _ =>
      false

/-- Whether a request fails in a way that callers are told to expect. -/
def RequestFailure.isForeseen : RequestFailure → Bool
  | .unreadable _ =>
      true
  | .failed failure =>
      failure.isForeseen

namespace Direct

/-- A computation does not fail in a way that callers are told to expect. -/
def FailsUnforeseen (outcome : Except Failure α) : Prop :=
  ∀ failure, outcome = .error failure → failure.isForeseen = false

namespace FailsUnforeseen

variable {α β : Type} {outcome : Except Failure α}

theorem ok
    (value : α) :
    FailsUnforeseen (.ok value) :=
  nofun

theorem bind
    (first : FailsUnforeseen outcome)
    {rest : α → Except Failure β}
    (second : ∀ value, outcome = .ok value → FailsUnforeseen (rest value)) :
    FailsUnforeseen (outcome >>= rest) := by
  cases outcome with
  | ok value =>
      exact second value rfl
  | error failure =>
      rintro _ ⟨⟩
      exact first failure rfl

theorem map
    (fails : FailsUnforeseen outcome)
    (made : α → β) :
    FailsUnforeseen (made <$> outcome) := by
  rw [map_eq_pure_bind]
  exact fails.bind fun value _ => ok (made value)

theorem mapM
    {items : List β}
    {compute : β → Except Failure α}
    (each : ∀ item, FailsUnforeseen (compute item)) :
    FailsUnforeseen (items.mapM compute) := by
  induction items with
  | nil =>
      exact ok []
  | cons item rest inductionHypothesis =>
      rw [List.mapM_cons]
      exact (each item).bind fun value _ =>
        inductionHypothesis.bind fun others _ => ok (value :: others)

/-- Nobody is told to expect that a pattern breaks down. -/
theorem of_stopsAt
    {fault? : Option Pattern.Fatal}
    (stops : StopsAt fault? outcome) :
    FailsUnforeseen outcome := by
  cases stops with
  | completed value =>
      exact ok value
  | stopped fatal =>
      rintro _ ⟨⟩
      rfl

end FailsUnforeseen

variable {settings : Settings} {node : Node} {hierarchy : Hierarchy}

/-- The groups that were examined are among those given. -/
theorem subset_of_examine
    {groups : List Group}
    {examined : List Engine.Examined}
    (given : examine settings node hierarchy groups = .ok examined) :
    matched examined ⊆ groups := by
  obtain ⟨verdict, decided⟩ := exists_verdict (judged_of_examine given)
  have found : examined = findings hierarchy verdict groups :=
    Except.ok.inj (given.symm.trans (examine_eq_ok hierarchy decided))
  rw [found, matched_findings]
  exact fun group listed => List.mem_of_mem_filter listed

/-- Under a complete hierarchy a classification fails in no foreseen way. -/
theorem failsUnforeseen_resolve
    (complete : hierarchy.IsComplete)
    (settings : Settings)
    (node : Node)
    (groupSet : GroupSet) :
    FailsUnforeseen (resolve settings node groupSet hierarchy) := by
  have examines :=
    stopsAt_examine settings node hierarchy
      (hierarchy.order.filterMap groupSet.find?)
  refine (FailsUnforeseen.of_stopsAt examines).bind fun examined given => ?_
  have known :
      ∀ group ∈ matched examined, ∃ depth,
        hierarchy.depth? group.id = some depth := by
    intro group isMatched
    obtain ⟨id, listed, found⟩ :=
      List.mem_filterMap.mp (subset_of_examine given isMatched)
    have same := List.find?_some found
    have sameId : group.id = id := eq_of_beq same
    exact sameId ▸ complete id listed
  unfold mergeGroups
  rw [PlacedGroup.place_eq_ok known]
  dsimp only
  split
  case isTrue =>
    exact .ok _
  case isFalse =>
    rintro _ ⟨⟩
    rfl

theorem failsUnforeseen_membersAmong
    (settings : Settings)
    (group : Group)
    (nodes : List Node) :
    FailsUnforeseen (membersAmong settings group nodes) := by
  induction nodes with
  | nil =>
      exact .ok []
  | cons node rest inductionHypothesis =>
      have decides := stopsAt_membership settings node group
      exact (FailsUnforeseen.of_stopsAt decides).bind fun membership _ =>
        inductionHypothesis.bind fun others _ => .ok _

/-- Under a complete hierarchy only a task for a missing group fails in a foreseen way. -/
theorem eq_groupNotFound_of_isForeseen
    (complete : hierarchy.IsComplete)
    {settings : Settings}
    {task : Task}
    {groupSet : GroupSet}
    {failure : Failure}
    (fails : answer settings task groupSet hierarchy = .error failure)
    (foreseen : failure.isForeseen = true) :
    ∃ id nodes,
      task = .nodesInGroup id nodes ∧
        groupSet.find? id = none ∧
        failure = .groupNotFound id := by
  have contradicts {outcome : Except Failure Answer}
      (unforeseen : FailsUnforeseen outcome)
      (same : outcome = .error failure) :
      False :=
    Bool.false_ne_true ((unforeseen failure same).symm.trans foreseen)
  cases task with
  | classify node =>
      have resolves := failsUnforeseen_resolve complete settings node groupSet
      exact (contradicts (resolves.map _) fails).elim
  | classifyMany nodes =>
      have resolves : FailsUnforeseen (nodes.mapM fun node =>
          resolve settings node groupSet hierarchy) :=
        .mapM fun node =>
          failsUnforeseen_resolve complete settings node groupSet
      exact (contradicts (resolves.map _) fails).elim
  | validate =>
      cases fails
  | nodesInGroup id nodes =>
      have listing :
          Answer.certnames <$> nodesInGroup settings id nodes groupSet =
            .error failure :=
        fails
      unfold nodesInGroup at listing
      cases found : groupSet.find? id with
      | none =>
          rw [found] at listing
          cases listing
          exact ⟨id, nodes, rfl, found, rfl⟩
      | some group =>
          rw [found] at listing
          have lists := failsUnforeseen_membersAmong settings group nodes
          exact (contradicts ((lists.map _).map _) listing).elim

end Direct

end FleetConfig
