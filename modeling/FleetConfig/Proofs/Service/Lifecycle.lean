import FleetConfig.Proofs.Service.Conversation
import FleetConfig.Proofs.Service.Registry
import FleetConfig.Proofs.Service.Rejection

/-!
# Starting and shutting down

A service answers whether it is started or not, and its caches fill either way.
Shutting it down always leaves it stopped, but drops the caches only of a service that
was started.  Whether it was is decided by the last request that started it or shut it
down.

A registry shuts down the service that it takes out of force.  A service that it made
when one was asked for is not started, and one that replaces another is; from then on
requests decide as for any other service.
-/

namespace FleetConfig

/-- Whether something is on after switches; where there is no switch it stays as it is. -/
def switchedBy
    (before : Bool)
    (switches : List (Option Bool)) :
    Bool :=
  switches.foldl (fun on switch => switch.getD on) before

/-- The switch that a request is, if it starts a service or shuts it down. -/
def Request.switch? : Request → Option Bool
  | .work _ _ =>
      none
  | .clearCaches =>
      none
  | .start =>
      some true
  | .shutDown =>
      some false

namespace Service

/-- Neither cache holds anything. -/
structure HoldsNothing (service : Service) : Prop where
  patterns : service.engine.patterns.recent.entries = []
  hierarchies : service.engine.hierarchies.recent.entries = []

/--
A service that was started, or was not, is shut down.  It is stopped; its caches are
empty exactly if it was started or they were so before; and if it was not started it
stays as it is.
-/
structure Stops
    (before after : Service)
    (started : Bool) :
    Prop where
  stopped : after.started = false
  drops : after.HoldsNothing ↔ started = true ∨ before.HoldsNothing
  keeps : started = false → after = before

theorem stops_shutDown
    (service : Service) :
    service.Stops service.shutDown service.started := by
  by_cases started : service.started = true
  · have shutDown :
        service.shutDown = { service.clearCaches with started := false } := by
      simp [Service.shutDown, started]
    have empty : service.shutDown.HoldsNothing := by
      rw [shutDown]
      exact ⟨rfl, rfl⟩
    exact
      { stopped := by rw [shutDown]
        drops := by simp [started, empty]
        keeps := by simp [started] }
  · have shutDown : service.shutDown = service := by
      simp [Service.shutDown, started]
    exact
      { stopped := by simpa [shutDown] using started
        drops := by simp [started, shutDown]
        keeps := fun _ => shutDown }

/-! ## Requests that start and shut down -/

theorem started_work
    (service : Service)
    (task : Task)
    (groupSet : GroupSet) :
    (service.work task groupSet).2.started = service.started := by
  cases task <;> rfl

theorem started_respond
    (service : Service)
    (request : Request) :
    (service.respond request).2.started =
      request.switch?.getD service.started := by
  cases request with
  | work task presented =>
      cases presented with
      | valid groupSet =>
          exact service.started_work task groupSet
      | invalid complaints =>
          rfl
  | clearCaches =>
      rfl
  | start =>
      rfl
  | shutDown =>
      exact service.stops_shutDown.stopped

variable {service after last : Service}

/-- However a request is answered, only its switch decides whether the service is started. -/
theorem Answers.started
    {request : Request}
    {outcome : Except RequestFailure Answer}
    (answers : service.Answers request outcome after) :
    after.started = request.switch?.getD service.started := by
  cases answers with
  | inTurn =>
      exact service.started_respond request
  | sideBySide =>
      rfl

theorem Converses.started
    {exchanges : List Exchange}
    (converses : service.Converses exchanges last) :
    last.started =
      switchedBy service.started (exchanges.map (·.request.switch?)) := by
  induction converses with
  | nil service =>
      rfl
  | @cons service after last exchange rest answers goesOn inductionHypothesis =>
      rw [inductionHypothesis, answers.started]
      rfl

end Service

namespace Registry

variable (registry : Registry)

/-! ## Runs of a registry -/

/-- What is asked of a registry; a request goes to the service in force. -/
inductive Call where
  | requireSettings (lookUp : String → Option String)
  | setSettings (settings : Settings)
  | resetSettings
  | requireService (lookUp : String → Option String)
  | configureService
      (lookUp : String → Option String)
      (settings? : Option Settings)
  | resetService
  | ask (request : Request)

namespace Call

/-- The switch that a call is for the service in force. -/
def switch? : Call → Option Bool
  | .configureService _ _ =>
      some true
  | .resetService =>
      some false
  | .ask request =>
      request.switch?
  | _ =>
      none

/-- A call takes the service in force out of force. -/
def Retires : Call → Prop
  | .configureService _ _ =>
      True
  | .resetService =>
      True
  | _ =>
      False

end Call

/-- A call changes a registry. -/
inductive Step (registry : Registry) : Call → Registry → Prop where
  | requireSettings
      (lookUp : String → Option String) :
      Step registry (.requireSettings lookUp) (registry.requireSettings lookUp).2
  | setSettings
      (settings : Settings) :
      Step registry (.setSettings settings) (registry.setSettings settings)
  | resetSettings :
      Step registry .resetSettings registry.resetSettings
  | requireService
      (lookUp : String → Option String) :
      Step registry (.requireService lookUp) (registry.requireService lookUp).2
  | configureService
      (lookUp : String → Option String)
      (settings? : Option Settings) :
      Step registry (.configureService lookUp settings?)
        (registry.configureService lookUp settings?).2
  | resetService :
      Step registry .resetService registry.resetService
  | ask
      {number : Nat}
      {service after : Service}
      {request : Request}
      {outcome : Except RequestFailure Answer}
      (inForce : registry.currentService? = some number)
      (held : registry.service? number = some service)
      (answers : service.Answers request outcome after) :
      Step registry (.ask request) (registry.putService number after)

/-- Calls one after the other lead from a registry that holds nothing to another. -/
inductive Runs : List Call → Registry → Prop where
  | empty :
      Runs [] .empty
  | step
      {calls : List Call}
      {call : Call}
      {registry after : Registry}
      (runs : Runs calls registry)
      (step : registry.Step call after) :
      Runs (calls ++ [call]) after

/--
No service is started but the one in force, which may be; without a service in force
none is.
-/
structure Keeps
    (registry : Registry)
    (started : Bool) :
    Prop where
  inForce :
    ∀ number,
      registry.currentService? = some number →
        ∃ service,
          registry.service? number = some service ∧ service.started = started
  outOfForce :
    ∀ number service,
      registry.service? number = some service →
        registry.currentService? ≠ some number →
          service.started = false
  nobody : registry.currentService? = none → started = false

namespace Keeps

variable {registry} {started : Bool}

/-- Settings have no part in it. -/
theorem withSettings
    (keeps : registry.Keeps started)
    (settings : List Settings)
    (currentSettings? : Option Nat) :
    Keeps { registry with settings, currentSettings? } started :=
  ⟨keeps.inForce, keeps.outOfForce, keeps.nobody⟩

theorem requireSettings
    (keeps : registry.Keeps started)
    (lookUp : String → Option String) :
    (registry.requireSettings lookUp).2.Keeps started := by
  obtain ⟨settings, currentSettings?, required⟩ :=
    registry.exists_requireSettings lookUp
  rw [required]
  exact keeps.withSettings settings currentSettings?

theorem requireService
    (keeps : registry.Keeps started)
    (lookUp : String → Option String) :
    (registry.requireService lookUp).2.Keeps started := by
  cases current : registry.currentService? with
  | some number =>
      rw [registry.requireService_of_some lookUp current]
      exact keeps
  | none =>
      obtain ⟨settings, inForce, services⟩ :=
        registry.exists_requireService_of_none lookUp current
      constructor
      case inForce =>
        intro number isCurrent
        rw [inForce] at isCurrent
        cases isCurrent
        exact ⟨_, (services _).trans (if_pos rfl), (keeps.nobody current).symm⟩
      case outOfForce =>
        intro number service held notCurrent
        rw [services] at held
        rw [inForce] at notCurrent
        have notNew : registry.services.length ≠ number :=
          fun same => notCurrent (congrArg some same)
        rw [if_neg notNew] at held
        exact keeps.outOfForce number service held (by simp [current])
      case nobody =>
        simp [inForce]

/-- After the service in force is shut down none of the services so far is started. -/
theorem stopped_of_shutDown
    (keeps : registry.Keeps started)
    {number : Nat}
    {service : Service}
    (held :
      (if registry.currentService? = some number then
        (registry.service? number).map Service.shutDown
      else
        registry.service? number) = some service) :
    service.started = false := by
  by_cases inForce : registry.currentService? = some number
  · rw [if_pos inForce] at held
    obtain ⟨before, _, rfl⟩ := Option.map_eq_some_iff.mp held
    exact before.stops_shutDown.stopped
  · rw [if_neg inForce] at held
    exact keeps.outOfForce number service held inForce

theorem configureService
    (keeps : registry.Keeps started)
    (lookUp : String → Option String)
    (settings? : Option Settings) :
    (registry.configureService lookUp settings?).2.Keeps true := by
  obtain ⟨settings, inForce, services⟩ :=
    registry.exists_configureService lookUp settings?
  constructor
  case inForce =>
    intro number isCurrent
    rw [inForce] at isCurrent
    cases isCurrent
    exact ⟨_, (services _).trans (if_pos rfl), rfl⟩
  case outOfForce =>
    intro number service held notCurrent
    rw [services] at held
    rw [inForce] at notCurrent
    have notNew : registry.services.length ≠ number :=
      fun same => notCurrent (congrArg some same)
    rw [if_neg notNew] at held
    exact keeps.stopped_of_shutDown held
  case nobody =>
    simp [inForce]

theorem resetService
    (keeps : registry.Keeps started) :
    registry.resetService.Keeps false := by
  constructor
  case inForce =>
    exact nofun
  case outOfForce =>
    intro number service held _
    rw [service?_resetService] at held
    exact keeps.stopped_of_shutDown held
  case nobody =>
    exact fun _ => rfl

theorem putService
    (keeps : registry.Keeps started)
    {number : Nat}
    (inForce : registry.currentService? = some number)
    (after : Service) :
    (registry.putService number after).Keeps after.started := by
  obtain ⟨service, held, _⟩ := keeps.inForce number inForce
  constructor
  case inForce =>
    intro other isCurrent
    rw [currentService?_putService, inForce] at isCurrent
    cases isCurrent
    exact ⟨after, by simp [service?_putService, held], rfl⟩
  case outOfForce =>
    intro other otherService heldOther notCurrent
    rw [currentService?_putService] at notCurrent
    have different : number ≠ other :=
      fun same => notCurrent (inForce.trans (congrArg some same))
    rw [service?_putService, if_neg different] at heldOther
    obtain ⟨before, heldBefore, rfl⟩ := Option.map_eq_some_iff.mp heldOther
    exact keeps.outOfForce other before heldBefore notCurrent
  case nobody =>
    simp [inForce]

/-- Every call keeps it up and switches the service in force, if it is a switch. -/
theorem step
    (keeps : registry.Keeps started)
    {call : Call}
    {after : Registry}
    (step : registry.Step call after) :
    after.Keeps (call.switch?.getD started) := by
  cases step with
  | requireSettings lookUp =>
      exact keeps.requireSettings lookUp
  | setSettings settings =>
      exact keeps.withSettings _ _
  | resetSettings =>
      exact keeps.withSettings _ _
  | requireService lookUp =>
      exact keeps.requireService lookUp
  | configureService lookUp settings? =>
      exact keeps.configureService lookUp settings?
  | resetService =>
      exact keeps.resetService
  | @ask number service after request outcome inForce held answers =>
      obtain ⟨same, heldAgain, isStarted⟩ := keeps.inForce number inForce
      rw [held] at heldAgain
      cases heldAgain
      have switched := keeps.putService inForce after
      rw [answers.started, isStarted] at switched
      exact switched

end Keeps

/-- The last switch among the calls tells whether the service in force is started. -/
theorem Runs.keeps
    {calls : List Call}
    {registry : Registry}
    (runs : Runs calls registry) :
    registry.Keeps (switchedBy false (calls.map Call.switch?)) := by
  induction runs with
  | empty =>
      have noService (number : Nat) : Registry.empty.service? number = none :=
        rfl
      exact ⟨nofun, by simp [noService], fun _ => rfl⟩
  | @step calls call registry after runs step inductionHypothesis =>
      have kept := inductionHypothesis.step step
      simpa [switchedBy] using kept

/--
Of two registries the second one no longer has in force the service that the first one
has in force under a number; it holds that service as it is after being shut down.
-/
structure TakesOutOfForce
    (before after : Registry)
    (number : Nat)
    (started : Bool) :
    Prop where
  outOfForce : after.currentService? ≠ some number
  stops :
    ∃ service retired,
      before.service? number = some service ∧
        after.service? number = some retired ∧
        service.Stops retired started

theorem Keeps.takesOutOfForce
    {registry : Registry}
    {started : Bool}
    (keeps : registry.Keeps started)
    {call : Call}
    (retires : call.Retires)
    {after : Registry}
    (step : registry.Step call after)
    {number : Nat}
    (inForce : registry.currentService? = some number) :
    registry.TakesOutOfForce after number started := by
  obtain ⟨service, held, rfl⟩ := keeps.inForce number inForce
  cases step with
  | configureService lookUp settings? =>
      obtain ⟨settings, current, services⟩ :=
        registry.exists_configureService lookUp settings?
      have different : registry.services.length ≠ number := by
        rintro rfl
        simp [registry.service?_eq_none_of_length_le le_rfl] at held
      exact
        { outOfForce := by simpa [current] using different
          stops :=
            ⟨service, service.shutDown, held,
              by simp [services, different, inForce, held],
              service.stops_shutDown⟩ }
  | resetService =>
      exact
        { outOfForce := nofun
          stops :=
            ⟨service, service.shutDown, held,
              by simp [service?_resetService, inForce, held],
              service.stops_shutDown⟩ }
  | requireSettings | setSettings | resetSettings | requireService | ask =>
      contradiction

/--
Whatever was asked of a service, shutting it down stops it, and empties its caches
exactly if it was started or they were empty.  It was started exactly if the last
request to start it or to shut it down was one to start it.

In every run of a registry no service is started but the one in force.  When that one is
replaced or reset, it is shut down like any other.  Here it was started exactly if the
last of the requests to start or to shut down and of the calls to configure or to reset
was one to start or to configure.
-/
theorem stops_by_lastSwitch
    {settings : Settings}
    {meters : Meters}
    {exchanges : List Exchange}
    {service : Service}
    (converses : (Service.create settings meters).Converses exchanges service)
    {calls : List Call}
    {registry : Registry}
    (runs : Runs calls registry) :
    service.Stops service.shutDown
        (switchedBy false (exchanges.map (·.request.switch?))) ∧
      (∀ number service,
        registry.service? number = some service →
          registry.currentService? ≠ some number →
            service.started = false) ∧
      ∀ call after number,
        call.Retires →
          registry.Step call after →
            registry.currentService? = some number →
              registry.TakesOutOfForce after number
                (switchedBy false (calls.map Call.switch?)) := by
  have started :
      service.started =
        switchedBy false (exchanges.map (·.request.switch?)) :=
    converses.started
  refine ⟨?_, runs.keeps.outOfForce, ?_⟩
  · rw [← started]
    exact service.stops_shutDown
  · intro call after number retires step inForce
    exact runs.keeps.takesOutOfForce retires step inForce

namespace Sample

/-- A request that leaves a hierarchy in the cache. -/
def filling : Request :=
  .work .validate (.valid (Sample.single "v1"))

/-- The service is asked for and used without being started. -/
def calls : List Call :=
  [.requireService fun _ => none, .ask filling]

/-- What the calls lead to. -/
def used : Registry :=
  (Registry.empty.requireService fun _ => none).2.updateService 0 fun service =>
    (service.respond filling).2

theorem runs_used : Runs calls used :=
  .step (.step .empty (.requireService fun _ => none)) (.ask rfl rfl (.inTurn filling))

end Sample

/-- A service that is started drops its hierarchy, and one that is not keeps it. -/
theorem stops_by_lastSwitch_sample :
    ∃ exchanges service,
      exchanges.map Exchange.request = [Sample.filling, .start] ∧
        (Service.create {} .zero).Converses exchanges service ∧
        service.shutDown.HoldsNothing ∧
        Runs Sample.calls Sample.used ∧
        Sample.used.TakesOutOfForce Sample.used.resetService 0 false := by
  let requests : List Request := [Sample.filling, .start]
  have converses :=
    Service.converses_respondAll (Service.create {} .zero) requests
  obtain ⟨stops, _, retires⟩ :=
    stops_by_lastSwitch converses Sample.runs_used
  exact ⟨_, _, rfl, converses, stops.drops.mpr (.inl rfl), Sample.runs_used,
    retires .resetService _ 0 trivial .resetService rfl⟩

/-- A service that is reset without having been started goes on to hold a hierarchy. -/
theorem resetService_unstarted :
    Runs Sample.calls Sample.used ∧
      Sample.used.currentService? = some 0 ∧
      ∃ service,
        Sample.used.resetService.service? 0 = some service ∧
          service.engine.hierarchies.recent.entries =
            [("v1", (Sample.single "v1").hierarchy)] ∧
          ¬ service.HoldsNothing := by
  have kept :
      (Sample.used.resetService.service? 0).map
          (·.engine.hierarchies.recent.entries) =
        some [("v1", (Sample.single "v1").hierarchy)] := by
    cbv
  obtain ⟨service, held, entries⟩ := Option.map_eq_some_iff.mp kept
  refine ⟨Sample.runs_used, rfl, service, held, entries, fun nothing => ?_⟩
  rw [nothing.hierarchies] at entries
  contradiction

end Registry

end FleetConfig
