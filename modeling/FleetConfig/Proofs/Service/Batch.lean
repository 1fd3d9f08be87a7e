import FleetConfig.Proofs.Service.Members
import FleetConfig.Proofs.Service.Pool
import FleetConfig.Proofs.Service.Session

/-!
# Classifying many nodes

A batch of nodes is classified in turn or side by side.  Either way, and whatever
the service did before, it comes to what classifying each node by itself comes
to.  The reason is that the hierarchy is the one that validation gives, and that
patterns never show.
-/

namespace FleetConfig

namespace Engine

/--
Classifying nodes comes to an outcome: in turn if there is one worker or one node
at most, and else side by side, however the workers take turns.
-/
def ClassifiesMany
    (settings : Settings)
    (nodes : List Node)
    (groupSet : GroupSet)
    (engine : Engine)
    (outcome : Except Failure (List ResolvedConfiguration)) :
    Prop :=
  if settings.workers ≤ 1 ∨ nodes.length ≤ 1 then
    (engine.run (classifyMany settings nodes groupSet)).1 = outcome
  else
    match engine.run (validate groupSet) with
    | (.error failure, _) =>
        .error failure = outcome
    | (.ok hierarchy, after) =>
        (Pool.ofNodes settings groupSet hierarchy nodes after).ComesTo
          settings.workers.toNat outcome

/-- The hierarchy that is asked for decides the only outcome of classifying nodes. -/
theorem classifiesMany_iff
    {engine : Engine}
    (sound : engine.patterns.Sound)
    (settings : Settings)
    (nodes : List Node)
    (groupSet : GroupSet)
    {outcome : Except Failure (List ResolvedConfiguration)} :
    engine.ClassifiesMany settings nodes groupSet outcome ↔
      outcome =
        (engine.hierarchies.request groupSet).1.mapError .rejected >>=
          fun hierarchy =>
            nodes.mapM fun node =>
              Direct.resolve settings node groupSet hierarchy := by
  unfold ClassifiesMany
  split
  case isTrue =>
    rw [(Consults.classifyMany settings nodes groupSet engine sound).1]
    exact eq_comm
  case isFalse several =>
    obtain ⟨given, stillSound, _⟩ := Consults.validate groupSet engine sound
    cases ran : engine.run (validate groupSet) with
    | mk found after =>
        rw [ran] at given stillSound
        cases asked : (engine.hierarchies.request groupSet).1 with
        | error error =>
            rw [asked] at given
            cases given
            exact eq_comm
        | ok hierarchy =>
            rw [asked] at given
            cases given
            have workers : 0 < settings.workers.toNat := by
              omega
            have comes :=
              (Pool.computes_ofNodes settings groupSet hierarchy nodes
                stillSound).comesTo workers
            rw [List.mapM_map] at comes
            constructor
            · intro otherComes
              exact otherComes.unique comes
            · rintro rfl
              exact comes

end Engine

namespace Service

/--
A service is reached by requests that present certain group sets.  Where a request
classifies nodes side by side, every stage of that work counts as reached.
-/
inductive Reachable
    (settings : Settings)
    (groupSets : List GroupSet) :
    Service → Prop where
  | created
      (meters : Meters) :
      Reachable settings groupSets (create settings meters)
  | responded
      {service : Service}
      (reachable : Reachable settings groupSets service)
      (request : Request)
      (presented : request.groupSets ⊆ groupSets) :
      Reachable settings groupSets (service.respond request).2
  | sideBySide
      {service : Service}
      (reachable : Reachable settings groupSets service)
      (nodes : List Node)
      {groupSet : GroupSet}
      (presented : groupSet ∈ groupSets)
      {hierarchy : Hierarchy}
      {engine : Engine}
      (validated :
        service.engine.run (Engine.validate groupSet) =
          (.ok hierarchy, engine))
      {pool : Pool ResolvedConfiguration}
      (steps :
        Relation.ReflTransGen (Pool.Step settings.workers.toNat)
          (Pool.ofNodes settings groupSet hierarchy nodes engine) pool)
      (totals : Totals) :
      Reachable settings groupSets
        { service with engine := pool.engine, totals }

namespace Reachable

variable {settings : Settings}
  {groupSets : List GroupSet}
  {service : Service}

/-- Whatever is reached serves the group sets. -/
theorem serves
    (reachable : Reachable settings groupSets service) :
    service.Serves settings groupSets := by
  induction reachable with
  | created meters =>
      exact serves_create settings meters groupSets
  | responded reachable request presented inductionHypothesis =>
      exact inductionHypothesis.respond presented
  | @sideBySide service reachable nodes groupSet presented hierarchy engine
      validated pool steps totals inductionHypothesis =>
      obtain ⟨_, sound, asked⟩ :=
        Engine.Consults.validate groupSet service.engine
          inductionHypothesis.sound
      rw [validated] at sound asked
      obtain ⟨computes, untouched⟩ :=
        (Pool.computes_ofNodes settings groupSet hierarchy nodes
          sound).steps steps
      have hierarchies := untouched.trans asked
      constructor
      case sameSettings =>
        exact inductionHypothesis.sameSettings
      case sound =>
        exact computes.sound
      case sameLimits =>
        show pool.engine.hierarchies.limits = _
        rw [hierarchies, HierarchyCache.limits_request]
        exact inductionHypothesis.sameLimits
      case remembers =>
        show pool.engine.hierarchies.Remembers groupSets
        rw [hierarchies]
        exact inductionHypothesis.remembers.request presented

/-- Where versions name their groups, the hierarchy that is asked for is the validated one. -/
theorem request_eq_validate
    (reachable : Reachable settings groupSets service)
    (identify : GroupSet.VersionsIdentify groupSets)
    {groupSet : GroupSet}
    (presented : groupSet ∈ groupSets) :
    (service.engine.hierarchies.request groupSet).1 =
      groupSet.validate (Engine.limits settings) := by
  have serves := reachable.serves
  rw [serves.remembers.request_eq_validate identify presented,
    serves.sameLimits]

end Reachable

/--
Each of some nodes has a classification: the batch then has all of them, one for
each node, in order.
-/
theorem exists_classifications
    {nodes : List Node}
    {classify : Node → Except Failure ResolvedConfiguration}
    (each : ∀ node ∈ nodes, ∃ resolved, classify node = .ok resolved) :
    ∃ results,
      nodes.mapM classify = .ok results ∧
        List.Forall₂ (fun node resolved => classify node = .ok resolved)
          nodes results := by
  induction nodes with
  | nil =>
      exact ⟨[], rfl, .nil⟩
  | cons node rest inductionHypothesis =>
      obtain ⟨resolved, given⟩ := each node List.mem_cons_self
      obtain ⟨others, restGiven, all⟩ := inductionHypothesis fun other member =>
        each other (List.mem_cons_of_mem node member)
      refine ⟨resolved :: others, ?_, .cons given all⟩
      rw [List.mapM_cons, given, restGiven]
      rfl

/--
Where versions name their groups, classifying nodes has one outcome, whatever the
service did before and however many workers take turns.  For a rejected group set
it is what validation finds, also without nodes.  For an accepted one it is what
classifying the nodes by themselves gives, in order; so it lists one result for
each node if the rules are evaluated and keys are texts.  Classifying a single
node on the service gives the same as by itself.
-/
theorem classifiesMany_alone
    {settings : Settings}
    {groupSets : List GroupSet}
    {service : Service}
    (reachable : Reachable settings groupSets service)
    (identify : GroupSet.VersionsIdentify groupSets)
    {groupSet : GroupSet}
    (presented : groupSet ∈ groupSets)
    (nodes : List Node)
    (meters : Meters) :
    (∀ error,
        groupSet.validate (Engine.limits settings) = .error error →
        (∀ outcome,
            service.engine.ClassifiesMany settings nodes groupSet outcome ↔
              outcome = .error (.rejected error)) ∧
          ∀ node,
            Engine.classifyAlone settings meters node groupSet =
              .error (.rejected error)) ∧
      (∀ hierarchy,
        groupSet.validate (Engine.limits settings) = .ok hierarchy →
        (∀ outcome,
            service.engine.ClassifiesMany settings nodes groupSet outcome ↔
              outcome =
                nodes.mapM fun node =>
                  Engine.classifyAlone settings meters node groupSet) ∧
          ((∀ node ∈ nodes, ∀ group ∈ groupSet.groups, ∃ membership,
              Direct.membership settings node group = .ok membership) →
            (∀ group ∈ groupSet.groups, group.HasTextKeys) →
            ∃ results,
              (∀ outcome,
                service.engine.ClassifiesMany settings nodes groupSet
                    outcome ↔
                  outcome = .ok results) ∧
              List.Forall₂
                (fun node resolved =>
                  Engine.classifyAlone settings meters node groupSet =
                    .ok resolved)
                nodes results)) ∧
      ∀ node,
        (service.engine.run (Engine.classify settings node groupSet)).1 =
          Engine.classifyAlone settings meters node groupSet := by
  have sound := reachable.serves.sound
  have validates := reachable.request_eq_validate identify presented
  simp only [Engine.classifiesMany_iff sound, validates]
  refine ⟨?_, ?_, ?_⟩
  · intro error rejected
    rw [rejected]
    exact ⟨fun _ => Iff.rfl,
      Engine.classifyAlone_of_rejected rejected meters⟩
  · intro hierarchy accepted
    have batch :
        ((groupSet.validate (Engine.limits settings)).mapError .rejected >>=
            fun hierarchy =>
              nodes.mapM fun node =>
                Direct.resolve settings node groupSet hierarchy) =
          nodes.mapM fun node =>
            Engine.classifyAlone settings meters node groupSet := by
      simp only [Engine.classifyAlone_of_accepted accepted meters]
      rw [accepted]
      rfl
    simp only [batch, implies_true, true_and]
    intro judged textKeys
    obtain ⟨results, given, each⟩ :=
      exists_classifications fun node member =>
        Engine.exists_classifyAlone accepted meters
          (judged node member) textKeys
    exact ⟨results, fun _ => by rw [given], each⟩
  · intro node
    rw [(Engine.Consults.classify settings node groupSet service.engine
      sound).1, validates]
    exact (Engine.run_classify_fresh settings meters node groupSet).symm

/-- Four workers that classify side by side on a service which has done so before. -/
def Sample.team : Settings :=
  { workers := 4 }

/-- The sample is classified for each of two nodes, whichever of four workers is faster. -/
theorem classifiesMany_alone_sample :
    ∃ results,
      (∀ outcome,
        ((create Sample.team .zero).respond
              (.work (.classifyMany [Sample.node, Sample.node])
                (.valid Sample.groupSet))).2.engine.ClassifiesMany
            Sample.team [Sample.node, Sample.node] Sample.groupSet outcome ↔
          outcome = .ok results) ∧
      List.Forall₂
        (fun node resolved =>
          Engine.classifyAlone Sample.team .zero node Sample.groupSet =
            .ok resolved)
        [Sample.node, Sample.node] results := by
  have created :
      Reachable Sample.team [Sample.groupSet] (create Sample.team .zero) :=
    .created .zero
  have reachable :=
    created.responded
      (.work (.classifyMany [Sample.node, Sample.node])
        (.valid Sample.groupSet))
      (List.Subset.refl _)
  have identify : GroupSet.VersionsIdentify [Sample.groupSet] := by
    intro first firstMember second secondMember _
    rw [List.mem_singleton.mp firstMember, List.mem_singleton.mp secondMember]
  exact ((classifiesMany_alone reachable identify (List.mem_singleton_self _)
      [Sample.node, Sample.node] .zero).2.1 _ Sample.accepted).2
    (fun node _ _ member =>
      Direct.exists_membership Sample.team node
        (Sample.patternsSettle member))
    (fun _ member => Sample.hasTextKeys member)

end Service

end FleetConfig
