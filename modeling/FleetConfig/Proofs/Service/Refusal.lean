import FleetConfig.Proofs.Hierarchy.CacheHistory
import FleetConfig.Proofs.Service.Conversation
import FleetConfig.Proofs.Service.Foreseen
import FleetConfig.Proofs.Service.Recording
import FleetConfig.Proofs.Service.Rejection

/-!
# What refused requests leave behind

A request is refused if its group set is unreadable or is not accepted.  Then it
fails where the hierarchy is asked for, before any pattern is; and a hierarchy that
is not given is not kept.  So a refused request leaves behind a count of the
failure, where failures are counted, and nothing else but what the meters show.
-/

namespace FleetConfig

/-- Whether a request is refused because of the group set. -/
def RequestFailure.isRefusal : RequestFailure → Bool
  | .unreadable _ =>
      true
  | .failed (.rejected _) =>
      true
  | .failed _ =>
      false

/-- Whether a request fails because the structure of the group set is at fault. -/
def RequestFailure.isStructural : RequestFailure → Bool
  | .unreadable _ =>
      false
  | .failed failure =>
      failure.isStructural

/-- Whether a task classifies nodes. -/
def Task.classifies : Task → Bool
  | .classify _ =>
      true
  | .classifyMany _ =>
      true
  | .validate =>
      false
  | .nodesInGroup _ _ =>
      false

namespace Engine

/--
An action stops at a group set that is not accepted.  Of all that the engine keeps
only the meters change, and they gain nothing that results show.
-/
def Refuses
    (action : Action α)
    (groupSet : GroupSet) :
    Prop :=
  ∀ (engine : Engine) (error : HierarchyError),
    (engine.hierarchies.request groupSet).1 = .error error →
    ∃ meters,
      engine.meters.Gains meters [] ∧
        engine.run action = (.error (.rejected error), { engine with meters })

namespace Refuses

variable {α β : Type} {action : Action α} {groupSet : GroupSet}

theorem validate
    (groupSet : GroupSet) :
    Refuses (Engine.validate groupSet) groupSet := by
  intro engine error refused
  have gains := gains_validate engine groupSet
  obtain ⟨meters, ran⟩ := run_validate engine groupSet
  rw [refused, (HierarchyCache.request_of_error refused).2.2] at ran
  rw [ran] at gains
  exact ⟨meters, gains, ran⟩

/-- What would follow an action that stops is not begun. -/
theorem bind
    (refuses : Refuses action groupSet)
    (next : α → Action β) :
    Refuses (action >>= next) groupSet := by
  intro engine error refused
  obtain ⟨meters, gains, ran⟩ := refuses engine error refused
  refine ⟨meters, gains, ?_⟩
  rw [run_bind, ran]

theorem onFailure
    (refuses : Refuses action groupSet)
    {handle : Failure → Action Unit}
    (handles :
      ∀ (failure : Failure) (engine : Engine), ∃ meters,
        engine.meters.Gains meters [] ∧
          engine.run (handle failure) = (.ok (), { engine with meters })) :
    Refuses (Engine.onFailure action handle) groupSet := by
  intro engine error refused
  obtain ⟨meters, gains, ran⟩ := refuses engine error refused
  obtain ⟨last, gainsMore, handled⟩ :=
    handles (.rejected error) { engine with meters }
  refine ⟨last, gains.trans gainsMore, ?_⟩
  rw [run_onFailure, ran]
  dsimp only
  rw [run_bind, handled]
  rfl

theorem classify
    (settings : Settings)
    (node : Node)
    (groupSet : GroupSet) :
    Refuses (Engine.classify settings node groupSet) groupSet := by
  refine ((validate groupSet).onFailure fun failure engine => ?_).bind _
  cases failure.isStructural with
  | true =>
      exact ⟨_, .record_hidden engine.meters rfl, rfl⟩
  | false =>
      exact ⟨_, .refl engine.meters, rfl⟩

theorem classifyMany
    (settings : Settings)
    (nodes : List Node)
    (groupSet : GroupSet) :
    Refuses (Engine.classifyMany settings nodes groupSet) groupSet :=
  (validate groupSet).bind _

theorem nodesInGroup
    (settings : Settings)
    (id : String)
    (nodes : List Node)
    (groupSet : GroupSet) :
    Refuses (Engine.nodesInGroup settings id nodes groupSet) groupSet :=
  (validate groupSet).bind _

end Refuses

end Engine

/-- Counting a failure adds to the structural ones if it is one of them. -/
theorem Totals.addFailure_eq
    (totals : Totals)
    (failure : Failure) :
    totals.addFailure failure =
      { totals with
        structuralFailures :=
          totals.structuralFailures + failure.isStructural.toNat } := by
  unfold addFailure
  cases failure.isStructural <;> rfl

namespace Service

/-- A service that has refused a request, and has counted that as a failure or not. -/
def afterRefusal
    (service : Service)
    (counted : Bool)
    (meters : Meters) :
    Service :=
  { service with
    engine := { service.engine with meters },
    totals :=
      { service.totals with
        structuralFailures :=
          service.totals.structuralFailures + counted.toNat } }

variable {service after : Service}

theorem performCounted_of_run
    {action : Action α}
    {failure : Failure}
    {meters : Meters}
    (ran :
      service.engine.run action =
        (.error failure, { service.engine with meters }))
    (results : α → List ResolvedConfiguration) :
    service.performCounted action results =
      (.error failure, service.afterRefusal failure.isStructural meters) := by
  unfold performCounted perform
  rw [ran]
  dsimp only
  rw [Totals.addFailure_eq]
  rfl

theorem perform_of_run
    {action : Action α}
    {failure : Failure}
    {meters : Meters}
    (ran :
      service.engine.run action =
        (.error failure, { service.engine with meters })) :
    service.perform action =
      (.error failure, service.afterRefusal false meters) := by
  unfold perform
  rw [ran]
  rfl

/-- A task for a group set that is not accepted stops before it is begun. -/
theorem work_of_refused
    {groupSet : GroupSet}
    {error : HierarchyError}
    (refused :
      (service.engine.hierarchies.request groupSet).1 = .error error)
    (task : Task) :
    ∃ meters,
      service.engine.meters.Gains meters [] ∧
        service.work task groupSet =
          (.error (.rejected error),
            service.afterRefusal
              (task.classifies && (Failure.rejected error).isStructural)
              meters) := by
  cases task with
  | classify node =>
      obtain ⟨meters, gains, ran⟩ :=
        Engine.Refuses.classify service.settings node groupSet _ _ refused
      have stops := performCounted_of_run ran fun resolved => [resolved]
      refine ⟨meters, gains, ?_⟩
      simp only [work, classify, stops]
      rfl
  | classifyMany nodes =>
      obtain ⟨meters, gains, ran⟩ :=
        Engine.Refuses.classifyMany service.settings nodes groupSet _ _ refused
      have stops := performCounted_of_run ran fun resolved => resolved
      refine ⟨meters, gains, ?_⟩
      simp only [work, classifyMany, stops]
      rfl
  | validate =>
      obtain ⟨meters, gains, ran⟩ :=
        Engine.Refuses.validate groupSet _ _ refused
      refine ⟨meters, gains, ?_⟩
      simp only [work, validate, perform_of_run ran]
      rfl
  | nodesInGroup id nodes =>
      obtain ⟨meters, gains, ran⟩ :=
        Engine.Refuses.nodesInGroup service.settings id nodes groupSet _ _
          refused
      refine ⟨meters, gains, ?_⟩
      simp only [work, nodesInGroup, perform_of_run ran]
      rfl

/-- A task fails as the service says that it does. -/
theorem exists_of_respond_eq_error
    {task : Task}
    {groupSet : GroupSet}
    {failure : RequestFailure}
    (fails :
      .error failure = (service.respond (.work task (.valid groupSet))).1) :
    ∃ found,
      (service.work task groupSet).1 = .error found ∧
        failure = .failed found := by
  change .error failure = (service.work task groupSet).1.mapError _ at fails
  cases outcome : (service.work task groupSet).1 with
  | ok answer =>
      rw [outcome] at fails
      cases fails
  | error found =>
      rw [outcome] at fails
      cases fails
      exact ⟨found, rfl, rfl⟩

variable {settings : Settings} {groupSets : List GroupSet}

/-- Classifications side by side fail in no foreseen way. -/
theorem failsUnforeseen_of_collected?
    (reachable : Reachable settings groupSets service)
    {groupSet : GroupSet}
    {hierarchy : Hierarchy}
    {engine : Engine}
    (validated :
      service.engine.run (Engine.validate groupSet) = (.ok hierarchy, engine))
    {nodes : List Node}
    {workers : Nat}
    {pool : Pool ResolvedConfiguration}
    (steps :
      Relation.ReflTransGen (Pool.Step workers)
        (Pool.ofNodes service.settings groupSet hierarchy nodes engine) pool)
    {outcome : Except Failure (List ResolvedConfiguration)}
    (complete : Pool.collected? pool.works = some outcome) :
    Direct.FailsUnforeseen outcome := by
  have serves := reachable.serves
  obtain ⟨given, sound, _⟩ :=
    Engine.Consults.validate groupSet service.engine serves.sound
  rw [validated] at given sound
  have computes :=
    Pool.computes_ofNodes service.settings groupSet hierarchy nodes sound
  obtain rfl :=
    Pool.eq_of_collected? (computes.steps steps).1.yields complete
  have isComplete : hierarchy.IsComplete := by
    cases asked : (service.engine.hierarchies.request groupSet).1 with
    | error error =>
        rw [asked] at given
        cases given
    | ok found =>
        rw [asked] at given
        cases given
        exact serves.remembers.isComplete_of_request asked
  rw [List.mapM_map]
  exact .mapM fun node =>
    Direct.failsUnforeseen_resolve isComplete service.settings node groupSet

/--
A task that fails in a foreseen way is refused, or it asks for a group that is not
there.
-/
theorem Answers.cases_of_isForeseen
    (reachable : Reachable settings groupSets service)
    {task : Task}
    {presented : Checked GroupSet}
    {failure : RequestFailure}
    (answers :
      service.Answers (.work task presented) (.error failure) after)
    (foreseen : failure.isForeseen = true) :
    (∃ meters,
        service.engine.meters.Gains meters [] ∧
          after =
            service.afterRefusal (task.classifies && failure.isStructural)
              meters) ∨
      ∃ id nodes groupSet,
        task = .nodesInGroup id nodes ∧
          groupSet.find? id = none ∧
          failure = .failed (.groupNotFound id) ∧
          after = (service.work task groupSet).2 := by
  have serves := reachable.serves
  generalize isRequest : Request.work task presented = request at answers
  generalize isOutcome : Except.error failure = outcome at answers
  cases answers with
  | inTurn =>
      subst isRequest
      cases presented with
      | invalid complaints =>
          cases isOutcome
          refine .inl ⟨service.engine.meters, .refl _, ?_⟩
          rw [RequestFailure.isStructural, Bool.and_false]
          rfl
      | valid groupSet =>
          obtain ⟨found, fails, rfl⟩ := exists_of_respond_eq_error isOutcome
          have given := (work_consults serves.sound task groupSet).1
          cases asked : (service.engine.hierarchies.request groupSet).1 with
          | error error =>
              obtain ⟨meters, gains, worked⟩ := work_of_refused asked task
              rw [worked] at fails
              cases fails
              exact .inl ⟨meters, gains, congrArg Prod.snd worked⟩
          | ok hierarchy =>
              -- Under a hierarchy that is given only a missing group is left.
              rw [asked, fails] at given
              obtain ⟨id, nodes, isTask, missing, rfl⟩ :=
                Direct.eq_groupNotFound_of_isForeseen
                  (serves.remembers.isComplete_of_request asked)
                  given.symm foreseen
              exact .inr ⟨id, nodes, groupSet, isTask, missing, rfl, rfl⟩
  | @sideBySide _ _ _ _ _ _ validated _ steps outcome complete =>
      cases outcome with
      | ok results =>
          cases isOutcome
      | error found =>
          cases isOutcome
          have unforeseen :=
            failsUnforeseen_of_collected? reachable validated steps complete
              found rfl
          exact absurd foreseen (Bool.not_eq_true _ ▸ unforeseen)

/--
Whatever the service did before, a refused task leaves its caches as they were, with
what they hold, in order, and what they count.  It leaves the service started or not,
as it was, and adds to the totals a structural failure if the structure of the group
set is at fault and nodes were to be classified.
-/
theorem refusal_keepsCaches
    (reachable : Reachable settings groupSets service)
    {task : Task}
    {presented : Checked GroupSet}
    {failure : RequestFailure}
    (refused : failure.isRefusal = true)
    (answers :
      service.Answers (.work task presented) (.error failure) after) :
    after.engine.hierarchies = service.engine.hierarchies ∧
      after.engine.patterns = service.engine.patterns ∧
      after.started = service.started ∧
      after.settings = service.settings ∧
      after.totals =
        { service.totals with
          structuralFailures :=
            service.totals.structuralFailures +
              if task.classifies ∧ failure.isStructural then 1 else 0 } := by
  have foreseen : failure.isForeseen = true := by
    cases failure with
    | unreadable complaints =>
        rfl
    | failed found =>
        cases found with
        | rejected error =>
            rfl
        | pattern fatal =>
            cases refused
        | merge error =>
            cases refused
        | groupNotFound id =>
            cases refused
  rcases answers.cases_of_isForeseen reachable foreseen with
    ⟨meters, _, rfl⟩ | ⟨id, nodes, groupSet, _, _, rfl, _⟩
  · refine ⟨rfl, rfl, rfl, rfl, ?_⟩
    unfold afterRefusal
    cases task.classifies <;> cases failure.isStructural <;> rfl
  · cases refused

/-- A started service that holds a hierarchy. -/
def Sample.holding : Service :=
  (((create {} .zero).respond
    (.work .validate (.valid (Sample.single "v1")))).2.respond .start).2

/-- The service goes on to hold the hierarchy when it refuses to classify under a loop. -/
theorem refusal_keepsCaches_sample :
    ∃ failure after,
      failure.isRefusal = true ∧
        Sample.holding.Answers
          (.work (.classify Sample.node) (.valid (Sample.loop "v2")))
          (.error failure) after ∧
        after.engine.hierarchies = Sample.holding.engine.hierarchies ∧
        after.held? (Sample.single "v1") = some (Sample.single "v1").hierarchy ∧
        after.started = true ∧
        after.totals = ⟨0, 1, 0, 0⟩ := by
  have reachable : Reachable {} [Sample.single "v1"] Sample.holding :=
    ((Reachable.created .zero).responded
      (.work .validate (.valid (Sample.single "v1")))
      (List.Subset.refl _)).responded .start (List.nil_subset _)
  let request : Request :=
    .work (.classify Sample.node) (.valid (Sample.loop "v2"))
  let failure : RequestFailure :=
    .failed (.rejected (.defect (.cycles [["x", "x"]])))
  have outcome : (Sample.holding.respond request).1 = .error failure := by
    cbv
  have answers :
      Sample.holding.Answers request (.error failure)
        (Sample.holding.respond request).2 :=
    outcome ▸ .inTurn request
  obtain ⟨hierarchies, _, started, _, totals⟩ :=
    refusal_keepsCaches reachable rfl answers
  refine ⟨failure, _, rfl, answers, hierarchies, ?_, ?_, ?_⟩
  · unfold held?
    rw [hierarchies]
    cbv
  · rw [started]
    rfl
  · rw [totals]
    cbv

end Service

end FleetConfig
