import FleetConfig.Proofs.Group.Version
import FleetConfig.Proofs.Hierarchy.Validation
import FleetConfig.Proofs.Service.Conversation

/-!
# Used services answer as new ones

What a service keeps never shows, as long as the group sets under one version look
the same to validation.  Whatever has been asked before, in turn or side by side, a
request comes to what it comes to by itself, and so it does with a new service.
-/

namespace FleetConfig

namespace GroupSet

/-- Groups that are the same have the same outline, whatever the order of their payload. -/
theorem outline_eq_of_same
    {first second : GroupSet}
    (same : List.Forall₂ Group.Same first.groups second.groups) :
    first.outline = second.outline := by
  unfold outline
  refine forall₂_map_eq_iff.mp (same.imp fun group other same => ?_)
  rw [same.id, same.parent, same.rules]

/-- Versions identify group sets if they name groups up to the order of their payload. -/
theorem versionsIdentify_of_same
    {groupSets : List GroupSet}
    (same :
      ∀ first ∈ groupSets, ∀ second ∈ groupSets,
        first.version = second.version →
          List.Forall₂ Group.Same first.groups second.groups) :
    VersionsIdentify groupSets :=
  fun first firstMember second secondMember sameVersion =>
    outline_eq_of_same (same first firstMember second secondMember sameVersion)

end GroupSet

namespace Service

variable {settings : Settings}
  {groupSets : List GroupSet}
  {service last : Service}

/-- Where versions name their groups, a request comes to what it comes to by itself. -/
theorem Reachable.comesTo
    (reachable : Reachable settings groupSets service)
    (identify : GroupSet.VersionsIdentify groupSets)
    {request : Request}
    (presented : request.groupSets ⊆ groupSets) :
    service.ComesTo request (Direct.respond settings request) := by
  rw [← reachable.serves.respond_eq identify presented]
  exact comesTo_respond reachable.serves.sound request

/-- Where versions name their groups, each exchange comes out as it does by itself. -/
theorem Reachable.outcome_eq
    (reachable : Reachable settings groupSets service)
    (identify : GroupSet.VersionsIdentify groupSets)
    {exchanges : List Exchange}
    (presented : presentedIn exchanges ⊆ groupSets)
    (converses : service.Converses exchanges last) :
    ∀ exchange ∈ exchanges,
      exchange.outcome = Direct.respond settings exchange.request := by
  induction converses with
  | nil =>
      intro exchange member
      contradiction
  | cons answers _ inductionHypothesis =>
      obtain ⟨now, later⟩ := List.append_subset.mp presented
      refine List.forall_mem_cons.mpr ⟨?_, ?_⟩
      · exact (reachable.comesTo identify now).only answers
      · exact inductionHypothesis (reachable.answers now answers) later

/--
As long as versions name their groups, every exchange with a service came out as the
same request comes out with a new service under the same settings, and whatever is
asked next comes to the same with both.
-/
theorem converses_asNew
    {settings : Settings}
    {meters : Meters}
    {exchanges : List Exchange}
    {last : Service}
    (converses : (create settings meters).Converses exchanges last)
    (next : Request)
    (identify :
      GroupSet.VersionsIdentify (next.groupSets ++ presentedIn exchanges))
    (newMeters : Meters) :
    (∀ exchange ∈ exchanges,
        (create settings newMeters).ComesTo exchange.request
          exchange.outcome) ∧
      ∃ outcome,
        last.ComesTo next outcome ∧
          (create settings newMeters).ComesTo next outcome := by
  obtain ⟨now, before⟩ :=
    List.append_subset.mp
      (List.Subset.refl (next.groupSets ++ presentedIn exchanges))
  have created :
      ∀ meters,
        Reachable settings (next.groupSets ++ presentedIn exchanges)
          (create settings meters) :=
    .created
  constructor
  · intro exchange member
    have presented :
        exchange.request.groupSets ⊆ next.groupSets ++ presentedIn exchanges :=
      fun groupSet isPresented =>
        before (List.mem_flatMap.mpr ⟨exchange, member, isPresented⟩)
    rw [(created meters).outcome_eq identify before converses exchange member]
    exact (created newMeters).comesTo identify presented
  · have reached := (created meters).converses before converses
    exact ⟨_, reached.comesTo identify now,
      (created newMeters).comesTo identify now⟩

end Service

namespace Sample

/-- Four workers that share caches without any room. -/
def cramped : Settings :=
  { patternCacheSize := 0, hierarchyCacheSize := -1, workers := 4 }

/-- The root with its parameters in another order. -/
def reorderedBase : Group :=
  { base with parameters := base.parameters.reverse }

/-- The sample with a payload in another order, under the same version. -/
def reordered : GroupSet :=
  ⟨[web, reorderedBase, app], "v1"⟩

/-- Tasks for a sound and a defective group set, between changes of the service. -/
def requests : List Request :=
  [.work (.classify node) (.valid groupSet),
    .start,
    .work .validate (.valid circles),
    .work (.classifyMany [node, node]) (.valid groupSet),
    .work (.nodesInGroup "web" [node]) (.valid circles),
    .clearCaches,
    .work (.nodesInGroup "web" [node]) (.valid reordered),
    .shutDown,
    .work .validate (.invalid [⟨[], .notRecord⟩]),
    .work (.nodesInGroup "none" []) (.valid groupSet)]

/-- The sample and its other order look the same, and the defective set has another version. -/
theorem identify_requests :
    GroupSet.VersionsIdentify (reordered :: Request.allGroupSets requests) := by
  have presented :
      ∀ presented ∈ reordered :: Request.allGroupSets requests,
        presented = groupSet ∨ presented = reordered ∨ presented = circles := by
    intro presented member
    simp only [Request.allGroupSets, requests, Request.groupSets,
      List.flatMap_cons, List.flatMap_nil, List.mem_append, List.mem_cons,
      List.not_mem_nil, or_false, false_or] at member
    tauto
  have sameOutline : groupSet.outline = reordered.outline :=
    rfl
  have versions : circles.version ≠ "v1" := by
    decide
  intro first firstMember second secondMember same
  rcases presented first firstMember with rfl | rfl | rfl <;>
    rcases presented second secondMember with rfl | rfl | rfl
  · rfl
  · exact sameOutline
  · exact absurd same.symm versions
  · exact sameOutline.symm
  · rfl
  · exact absurd same.symm versions
  · exact absurd same versions
  · exact absurd same versions
  · rfl

end Sample

/-- Four workers with cramped caches classify the reordered sample as new ones would. -/
theorem Service.converses_asNew_sample :
    ∃ exchanges last outcome,
      (create Sample.cramped .zero).Converses exchanges last ∧
        exchanges.map (·.request) = Sample.requests ∧
        GroupSet.VersionsIdentify (Sample.reordered :: presentedIn exchanges) ∧
        (∀ exchange ∈ exchanges,
          (create Sample.cramped .zero).ComesTo exchange.request
            exchange.outcome) ∧
        last.ComesTo
          (.work (.classifyMany [Sample.node, Sample.node])
            (.valid Sample.reordered))
          outcome ∧
        (create Sample.cramped .zero).ComesTo
          (.work (.classifyMany [Sample.node, Sample.node])
            (.valid Sample.reordered))
          outcome := by
  have converses :=
    converses_respondAll (create Sample.cramped .zero) Sample.requests
  have identify := Sample.identify_requests
  obtain ⟨asNew, outcome, comes, newComes⟩ :=
    converses_asNew converses
      (.work (.classifyMany [Sample.node, Sample.node])
        (.valid Sample.reordered))
      identify .zero
  exact ⟨_, _, outcome, converses, rfl, identify, asNew, comes, newComes⟩

end FleetConfig
