import FleetConfig.Service.Basic

/-!
# The registry

The registry holds the settings and the service that are in force, and makes
them when they are first asked for.  It remembers all settings and services it
ever held, each under its number; the meters are common to all services.
-/

namespace FleetConfig

/-- A service under the number of its settings. -/
structure RegisteredService where
  settingsNumber : Nat
  service : Service

/-- All settings and services so far, and the numbers of those in force. -/
structure Registry where
  settings : List Settings
  currentSettings? : Option Nat
  services : List RegisteredService
  currentService? : Option Nat
  meters : Meters

namespace Registry

/-- A registry that holds nothing. -/
def empty : Registry :=
  ⟨[], none, [], none, .zero⟩

/-- Add settings, which get the next number. -/
def addSettings
    (registry : Registry)
    (settings : Settings) :
    Nat × Registry :=
  (registry.settings.length, { registry with settings := registry.settings ++ [settings] })

/-- Put settings in force. -/
def setSettings
    (registry : Registry)
    (settings : Settings) :
    Registry :=
  let (number, after) := registry.addSettings settings
  { after with currentSettings? := some number }

/-- The settings in force; if there are none, those that environment variables give. -/
def requireSettings
    (registry : Registry)
    (lookUp : String → Option String) :
    Nat × Registry :=
  match registry.currentSettings? with
  | some number =>
      (number, registry)
  | none =>
      let (number, after) := registry.addSettings (.ofVariables lookUp)
      (number, { after with currentSettings? := some number })

/-- Have no settings in force. -/
def resetSettings (registry : Registry) : Registry :=
  { registry with currentSettings? := none }

/-- The settings under a number. -/
def settingsAt
    (registry : Registry)
    (number : Nat) :
    Settings :=
  registry.settings[number]?.getD {}

/-- The service under a number, with the common meters. -/
def service?
    (registry : Registry)
    (number : Nat) :
    Option Service :=
  registry.services[number]?.map fun registered =>
    { registered.service with
      engine := { registered.service.engine with meters := registry.meters } }

/-- Replace the service under a number, and with it the common meters. -/
def putService
    (registry : Registry)
    (number : Nat)
    (service : Service) :
    Registry :=
  { registry with
    services := registry.services.modify number fun registered => { registered with service },
    meters := service.engine.meters }

/-- Change the service under a number. -/
def updateService
    (registry : Registry)
    (number : Nat)
    (change : Service → Service) :
    Registry :=
  match registry.service? number with
  | some service =>
      registry.putService number (change service)
  | none =>
      registry

/-- Make a service under settings and put it in force. -/
def installService
    (registry : Registry)
    (settingsNumber : Nat) :
    Nat × Registry :=
  let service := Service.create (registry.settingsAt settingsNumber) registry.meters
  let number := registry.services.length
  (number,
    { registry with
      services := registry.services ++ [⟨settingsNumber, service⟩],
      currentService? := some number })

/-- Shut down a service, if there is one. -/
def shutDownService
    (registry : Registry)
    (number? : Option Nat) :
    Registry :=
  match number? with
  | some number =>
      registry.updateService number Service.shutDown
  | none =>
      registry

/-- The service in force; if there is none, a new one under the settings in force. -/
def requireService
    (registry : Registry)
    (lookUp : String → Option String) :
    Nat × Registry :=
  match registry.currentService? with
  | some number =>
      (number, registry)
  | none =>
      let (settingsNumber, after) := registry.requireSettings lookUp
      after.installService settingsNumber

/-- Replace the service in force by a started one, under settings of its own or those in force. -/
def configureService
    (registry : Registry)
    (lookUp : String → Option String)
    (settings? : Option Settings) :
    Nat × Registry :=
  let previous? := registry.currentService?
  let (settingsNumber, after) :=
    match settings? with
    | some settings =>
        registry.addSettings settings
    | none =>
        registry.requireSettings lookUp
  let (number, installed) := after.installService settingsNumber
  (number, (installed.shutDownService previous?).updateService number Service.start)

/-- Shut down the service in force and have none. -/
def resetService (registry : Registry) : Registry :=
  { registry.shutDownService registry.currentService? with currentService? := none }

end Registry

end FleetConfig
