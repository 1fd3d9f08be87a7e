import FleetConfig.Service.Registry

/-!
# The services of a registry

What each operation of a registry does to its services is told by what the registry then
holds under every number.  All services share the meters, so a service that is replaced
changes those of all others, but nothing else of them.
-/

namespace FleetConfig

theorem Service.meters_start
    (service : Service) :
    service.start.engine.meters = service.engine.meters :=
  rfl

theorem Service.meters_shutDown
    (service : Service) :
    service.shutDown.engine.meters = service.engine.meters := by
  unfold Service.shutDown
  split <;> rfl

namespace Registry

variable (registry : Registry)

theorem meters_of_service?
    {number : Nat}
    {service : Service}
    (held : registry.service? number = some service) :
    service.engine.meters = registry.meters := by
  obtain ⟨registered, _, rfl⟩ := Option.map_eq_some_iff.mp held
  rfl

/-- A service with other meters. -/
def metered
    (meters : Meters)
    (service : Service) :
    Service :=
  { service with engine := { service.engine with meters } }

/-- Putting a service leaves of the others everything but the meters. -/
theorem service?_putService
    (number other : Nat)
    (service : Service) :
    (registry.putService number service).service? other =
      if number = other then
        (registry.service? other).map fun _ => service
      else
        (registry.service? other).map (metered service.engine.meters) := by
  simp only [putService, service?, List.getElem?_modify]
  cases registry.services[other]? with
  | none =>
      simp
  | some registered =>
      by_cases same : number = other
      · simp [same]
      · simp [same, metered]

/-- A change that leaves the meters alone changes one service and no other. -/
theorem service?_updateService
    (number other : Nat)
    {change : Service → Service}
    (sameMeters :
      ∀ service : Service,
        (change service).engine.meters = service.engine.meters) :
    (registry.updateService number change).service? other =
      if number = other then
        (registry.service? other).map change
      else
        registry.service? other := by
  unfold updateService
  cases held : registry.service? number with
  | none =>
      by_cases same : number = other
      · simp [← same, held]
      · simp [same]
  | some service =>
      simp only [service?_putService]
      by_cases same : number = other
      · simp [← same, held]
      · have meters : (change service).engine.meters = registry.meters := by
          rw [sameMeters, registry.meters_of_service? held]
        simp only [same, if_false, meters]
        cases heldOther : registry.service? other with
        | none =>
            rfl
        | some service =>
            have common := registry.meters_of_service? heldOther
            simp [metered, ← common]

theorem service?_shutDownService
    (number? : Option Nat)
    (other : Nat) :
    (registry.shutDownService number?).service? other =
      if number? = some other then
        (registry.service? other).map Service.shutDown
      else
        registry.service? other := by
  cases number? with
  | none =>
      simp [shutDownService]
  | some number =>
      simp [shutDownService,
        service?_updateService _ _ _ Service.meters_shutDown]

/-- A service that is installed comes last and is not started. -/
theorem service?_installService
    (settingsNumber other : Nat) :
    (registry.installService settingsNumber).2.service? other =
      if registry.services.length = other then
        some (.create (registry.settingsAt settingsNumber) registry.meters)
      else
        registry.service? other := by
  unfold installService service?
  rcases Nat.lt_trichotomy other registry.services.length with
    before | rfl | after
  · simp [List.getElem?_append_left before, Nat.ne_of_gt before]
  · simp [Service.create, Engine.fresh]
  · have outside := Nat.le_of_lt after
    rw [if_neg (Nat.ne_of_lt after), List.getElem?_eq_none outside,
      List.getElem?_eq_none]
    simp only [List.length_append, List.length_singleton]
    exact after

theorem service?_eq_none_of_length_le
    {number : Nat}
    (outside : registry.services.length ≤ number) :
    registry.service? number = none := by
  simp [service?, outside]

@[simp] theorem currentService?_putService
    (number : Nat)
    (service : Service) :
    (registry.putService number service).currentService? =
      registry.currentService? :=
  rfl

@[simp] theorem currentService?_updateService
    (number : Nat)
    (change : Service → Service) :
    (registry.updateService number change).currentService? =
      registry.currentService? := by
  unfold updateService
  split <;> rfl

@[simp] theorem currentService?_shutDownService
    (number? : Option Nat) :
    (registry.shutDownService number?).currentService? =
      registry.currentService? := by
  cases number? with
  | none =>
      rfl
  | some number =>
      simp [shutDownService]

/-- Asking for settings leaves everything but the settings as it is. -/
theorem exists_requireSettings
    (lookUp : String → Option String) :
    ∃ settings currentSettings?,
      (registry.requireSettings lookUp).2 =
        { registry with settings, currentSettings? } := by
  unfold requireSettings
  split
  · exact ⟨registry.settings, registry.currentSettings?, rfl⟩
  · exact ⟨_, _, rfl⟩

/-- Where there is a service in force, it is the one that is asked for. -/
theorem requireService_of_some
    (lookUp : String → Option String)
    {number : Nat}
    (inForce : registry.currentService? = some number) :
    registry.requireService lookUp = (number, registry) := by
  simp [requireService, inForce]

/-- Where there is none, a new service is put in force, which is not started. -/
theorem exists_requireService_of_none
    (lookUp : String → Option String)
    (noneInForce : registry.currentService? = none) :
    ∃ settings,
      (registry.requireService lookUp).2.currentService? =
          some registry.services.length ∧
        ∀ other,
          (registry.requireService lookUp).2.service? other =
            if registry.services.length = other then
              some (.create settings registry.meters)
            else
              registry.service? other := by
  obtain ⟨settings, currentSettings?, required⟩ :=
    registry.exists_requireSettings lookUp
  simp only [requireService, noneInForce, required]
  exact ⟨_, rfl, fun other => service?_installService _ _ other⟩

/-- A service that replaces the one in force is started, and that one is shut down. -/
theorem service?_replaced
    (settingsNumber other : Nat) :
    (((registry.installService settingsNumber).2.shutDownService
          registry.currentService?).updateService
        registry.services.length Service.start).service? other =
      if registry.services.length = other then
        some
          (Service.create (registry.settingsAt settingsNumber)
            registry.meters).start
      else if registry.currentService? = some other then
        (registry.service? other).map Service.shutDown
      else
        registry.service? other := by
  rw [service?_updateService _ _ _ Service.meters_start,
    service?_shutDownService, service?_installService]
  by_cases isNew : registry.services.length = other
  · simp only [isNew, if_true]
    -- Shutting down the new service would not change it.
    split <;> rfl
  · simp only [isNew, if_false]

/-- A new service is put in force and started, and the one before it is shut down. -/
theorem exists_configureService
    (lookUp : String → Option String)
    (settings? : Option Settings) :
    ∃ settings,
      (registry.configureService lookUp settings?).2.currentService? =
          some registry.services.length ∧
        ∀ other,
          (registry.configureService lookUp settings?).2.service? other =
            if registry.services.length = other then
              some (Service.create settings registry.meters).start
            else if registry.currentService? = some other then
              (registry.service? other).map Service.shutDown
            else
              registry.service? other := by
  cases settings? with
  | some settings =>
      let given := (registry.addSettings settings).2
      exact ⟨_, by simp [configureService, installService, addSettings],
        fun other => given.service?_replaced registry.settings.length other⟩
  | none =>
      obtain ⟨settings, currentSettings?, required⟩ :=
        registry.exists_requireSettings lookUp
      let given : Registry := { registry with settings, currentSettings? }
      simp only [configureService, required]
      exact ⟨_, by simp [installService],
        fun other => given.service?_replaced _ other⟩

/-- The service in force is shut down, and there is none in force. -/
theorem service?_resetService
    (other : Nat) :
    registry.resetService.service? other =
      if registry.currentService? = some other then
        (registry.service? other).map Service.shutDown
      else
        registry.service? other :=
  registry.service?_shutDownService registry.currentService? other

end Registry

end FleetConfig
