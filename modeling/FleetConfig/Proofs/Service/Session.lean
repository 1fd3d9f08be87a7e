import FleetConfig.Proofs.Service.Classification
import FleetConfig.Service.Request

/-!
# A service over its lifetime

A service answers every request as if it had kept nothing, as long as the group
sets under one version look the same to validation.  The reason is an invariant.
Its patterns are sound and its hierarchies are those of group sets that were
presented; every request keeps this up.

Hierarchies are found by version alone.  So a group set under the version of an
accepted one passes with the hierarchy of that one, whatever is wrong with it.
-/

namespace FleetConfig

/-- The group sets that are presented with a request. -/
def Request.groupSets : Request → List GroupSet
  | .work _ (.valid groupSet) =>
      [groupSet]
  | _ =>
      []

/-- The group sets that are presented with requests. -/
def Request.allGroupSets (requests : List Request) : List GroupSet :=
  requests.flatMap Request.groupSets

namespace Direct

/-- What a task gives under a hierarchy. -/
def answer
    (settings : Settings)
    (task : Task)
    (groupSet : GroupSet)
    (hierarchy : Hierarchy) :
    Except Failure Answer :=
  match task with
  | .classify node =>
      .configuration <$> resolve settings node groupSet hierarchy
  | .classifyMany nodes =>
      .configurations <$>
        nodes.mapM fun node => resolve settings node groupSet hierarchy
  | .validate =>
      pure (.hierarchy hierarchy)
  | .nodesInGroup id nodes =>
      .certnames <$> nodesInGroup settings id nodes groupSet

/-- What a request gives if nothing was kept from others. -/
def respond (settings : Settings) : Request → Except RequestFailure Answer
  | .work task (.valid groupSet) =>
      ((groupSet.validate (Engine.limits settings)).mapError .rejected >>=
        answer settings task groupSet).mapError .failed
  | .work _ (.invalid complaints) =>
      .error (.unreadable complaints)
  | .clearCaches =>
      .ok .done
  | .start =>
      .ok .done
  | .shutDown =>
      .ok .done

end Direct

namespace Service

/-- Wrapping the outcome of what follows a hierarchy wraps what follows it. -/
private theorem map_outcome
    {outcome : Except Failure α}
    {asked : Except Failure Hierarchy}
    {rest : Hierarchy → Except Failure α}
    (wrap : α → Answer)
    (given : outcome = asked >>= rest) :
    outcome.map wrap = asked >>= fun hierarchy => wrap <$> rest hierarchy := by
  rw [given]
  cases asked <;> rfl

/-- A task asks for the hierarchy of the group set, which decides its outcome. -/
theorem work_consults
    {service : Service}
    (sound : service.engine.patterns.Sound)
    (task : Task)
    (groupSet : GroupSet) :
    (service.work task groupSet).1 =
        ((service.engine.hierarchies.request groupSet).1.mapError
            .rejected >>=
          Direct.answer service.settings task groupSet) ∧
      (service.work task groupSet).2.settings = service.settings ∧
      (service.work task groupSet).2.engine.patterns.Sound ∧
      (service.work task groupSet).2.engine.hierarchies =
        (service.engine.hierarchies.request groupSet).2 := by
  cases task with
  | classify node =>
      obtain ⟨given, stillSound, asked⟩ :=
        Engine.Consults.classify service.settings node groupSet
          service.engine sound
      exact ⟨map_outcome .configuration given, rfl, stillSound, asked⟩
  | classifyMany nodes =>
      obtain ⟨given, stillSound, asked⟩ :=
        Engine.Consults.classifyMany service.settings nodes groupSet
          service.engine sound
      exact ⟨map_outcome .configurations given, rfl, stillSound, asked⟩
  | validate =>
      obtain ⟨given, stillSound, asked⟩ :=
        Engine.Consults.validate groupSet service.engine sound
      exact ⟨map_outcome .hierarchy given, rfl, stillSound, asked⟩
  | nodesInGroup id nodes =>
      obtain ⟨given, stillSound, asked⟩ :=
        Engine.Consults.nodesInGroup service.settings id nodes groupSet
          service.engine sound
      exact ⟨map_outcome .certnames given, rfl, stillSound, asked⟩

/--
A service under settings whose patterns are sound and whose hierarchies are those
of the given group sets.
-/
structure Serves
    (service : Service)
    (settings : Settings)
    (groupSets : List GroupSet) :
    Prop where
  sameSettings : service.settings = settings
  sound : service.engine.patterns.Sound
  sameLimits : service.engine.hierarchies.limits = Engine.limits settings
  remembers : service.engine.hierarchies.Remembers groupSets

theorem serves_create
    (settings : Settings)
    (meters : Meters)
    (groupSets : List GroupSet) :
    (Service.create settings meters).Serves settings groupSets :=
  { sameSettings := rfl
    sound := Engine.sound_fresh settings meters
    sameLimits := rfl
    remembers := HierarchyCache.remembers_ofSize _ _ groupSets }

namespace Serves

variable {service : Service} {settings : Settings} {groupSets : List GroupSet}

theorem clearCaches
    (serves : service.Serves settings groupSets) :
    service.clearCaches.Serves settings groupSets :=
  { sameSettings := serves.sameSettings
    sound := PatternCache.sound_clear _
    sameLimits := serves.sameLimits
    remembers := HierarchyCache.remembers_clear _ groupSets }

/-- A task for one of the group sets keeps the invariant. -/
theorem work
    (serves : service.Serves settings groupSets)
    (task : Task)
    {groupSet : GroupSet}
    (member : groupSet ∈ groupSets) :
    (service.work task groupSet).2.Serves settings groupSets := by
  obtain ⟨_, sameSettings, stillSound, asked⟩ :=
    work_consults serves.sound task groupSet
  constructor
  case sameSettings =>
    exact sameSettings.trans serves.sameSettings
  case sound =>
    exact stillSound
  case sameLimits =>
    rw [asked, HierarchyCache.limits_request, serves.sameLimits]
  case remembers =>
    rw [asked]
    exact serves.remembers.request member

/-- Every request keeps the invariant. -/
theorem respond
    (serves : service.Serves settings groupSets)
    {request : Request}
    (presented : request.groupSets ⊆ groupSets) :
    (service.respond request).2.Serves settings groupSets := by
  cases request with
  | work task checked =>
      cases checked with
      | valid groupSet =>
          exact serves.work task (presented (List.mem_singleton_self _))
      | invalid complaints =>
          exact serves
  | clearCaches =>
      exact serves.clearCaches
  | start =>
      exact ⟨serves.sameSettings, serves.sound, serves.sameLimits,
        serves.remembers⟩
  | shutDown =>
      have cleared := serves.clearCaches
      show service.shutDown.Serves settings groupSets
      unfold shutDown
      split
      case isTrue =>
        exact ⟨cleared.sameSettings, cleared.sound, cleared.sameLimits,
          cleared.remembers⟩
      case isFalse =>
        exact serves

/-- Requests one after the other keep the invariant. -/
theorem respondAll
    (serves : service.Serves settings groupSets)
    {requests : List Request}
    (presented : Request.allGroupSets requests ⊆ groupSets) :
    (service.respondAll requests).2.Serves settings groupSets := by
  induction requests generalizing service with
  | nil =>
      exact serves
  | cons request rest inductionHypothesis =>
      obtain ⟨now, later⟩ := List.append_subset.mp presented
      exact inductionHypothesis (serves.respond now) later

/-- Where versions name their groups, a request gives what it gives by itself. -/
theorem respond_eq
    (serves : service.Serves settings groupSets)
    (identify : GroupSet.VersionsIdentify groupSets)
    {request : Request}
    (presented : request.groupSets ⊆ groupSets) :
    (service.respond request).1 = Direct.respond settings request := by
  cases request with
  | work task checked =>
      cases checked with
      | valid groupSet =>
          have given := (work_consults serves.sound task groupSet).1
          have validates :=
            serves.remembers.request_eq_validate identify
              (presented (List.mem_singleton_self groupSet))
          -- With validation in place of the cache nothing of the service is left.
          rw [validates, serves.sameLimits, serves.sameSettings] at given
          exact congrArg (Except.mapError RequestFailure.failed) given
      | invalid complaints =>
          rfl
  | clearCaches =>
      rfl
  | start =>
      rfl
  | shutDown =>
      rfl

/-- Where versions name their groups, each request gives what it gives by itself. -/
theorem respondAll_eq
    (serves : service.Serves settings groupSets)
    (identify : GroupSet.VersionsIdentify groupSets)
    {requests : List Request}
    (presented : Request.allGroupSets requests ⊆ groupSets) :
    (service.respondAll requests).1 =
      requests.map (Direct.respond settings) := by
  induction requests generalizing service with
  | nil =>
      rfl
  | cons request rest inductionHypothesis =>
      obtain ⟨now, later⟩ := List.append_subset.mp presented
      exact congrArg₂ List.cons (serves.respond_eq identify now)
        (inductionHypothesis (serves.respond now) later)

end Serves

end Service

end FleetConfig
