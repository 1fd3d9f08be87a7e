import FleetConfig.Service.Engine

/-!
# The classification service

A service runs an engine under settings and keeps totals of what it did.  It can
be started and shut down; shutting down a started service drops its caches.
-/

namespace FleetConfig

/-- What a service did so far. -/
structure Totals where
  classifications : Nat
  structuralFailures : Nat
  conflicts : Nat
  ruleErrors : Nat
  deriving Repr, DecidableEq

/-- An engine under settings, with totals. -/
structure Service where
  settings : Settings
  engine : Engine
  totals : Totals
  started : Bool

namespace Totals

/-- Totals before anything was done. -/
def zero : Totals :=
  ⟨0, 0, 0, 0⟩

/-- Count results. -/
def addResults
    (totals : Totals)
    (results : List ResolvedConfiguration) :
    Totals :=
  { totals with
    classifications := totals.classifications + results.length,
    conflicts := results.foldr (·.conflicts.length + ·) totals.conflicts,
    ruleErrors := results.foldr (·.errors.length + ·) totals.ruleErrors }

/-- Count a failure, if it is a structural one. -/
def addFailure
    (totals : Totals)
    (failure : Failure) :
    Totals :=
  if failure.isStructural then
    { totals with structuralFailures := totals.structuralFailures + 1 }
  else
    totals

end Totals

namespace Service

/-- A new service, which is not started. -/
def create
    (settings : Settings)
    (meters : Meters) :
    Service :=
  ⟨settings, .fresh settings meters, .zero, false⟩

/-- Run an action of the engine. -/
def perform
    (service : Service)
    (action : Action α) :
    Except Failure α × Service :=
  let (outcome, engine) := service.engine.run action
  (outcome, { service with engine })

/-- Run an action of the engine and count the results it gives or its failure. -/
def performCounted
    (service : Service)
    (action : Action α)
    (results : α → List ResolvedConfiguration) :
    Except Failure α × Service :=
  let (outcome, after) := service.perform action
  let totals :=
    match outcome with
    | .ok value =>
        after.totals.addResults (results value)
    | .error failure =>
        after.totals.addFailure failure
  (outcome, { after with totals })

/-- Classify a node. -/
def classify
    (service : Service)
    (node : Node)
    (groupSet : GroupSet) :
    Except Failure ResolvedConfiguration × Service :=
  service.performCounted (Engine.classify service.settings node groupSet) fun resolved =>
    [resolved]

/-- Classify nodes. -/
def classifyMany
    (service : Service)
    (nodes : List Node)
    (groupSet : GroupSet) :
    Except Failure (List ResolvedConfiguration) × Service :=
  service.performCounted (Engine.classifyMany service.settings nodes groupSet) fun resolved =>
    resolved

/-- Validate the hierarchy of a group set. -/
def validate
    (service : Service)
    (groupSet : GroupSet) :
    Except Failure Hierarchy × Service :=
  service.perform (Engine.validate groupSet)

/-- The nodes that belong to a group. -/
def nodesInGroup
    (service : Service)
    (id : String)
    (nodes : List Node)
    (groupSet : GroupSet) :
    Except Failure (List String) × Service :=
  service.perform (Engine.nodesInGroup service.settings id nodes groupSet)

/-- Drop what the caches hold. -/
def clearCaches (service : Service) : Service :=
  { service with
    engine :=
      { service.engine with
        patterns := service.engine.patterns.clear,
        hierarchies := service.engine.hierarchies.clear } }

/-- Start a service. -/
def start (service : Service) : Service :=
  { service with started := true }

/-- Shut down a service; one that is not started stays as it is. -/
def shutDown (service : Service) : Service :=
  if service.started then
    { service.clearCaches with started := false }
  else
    service

/-- The state of a service as a record. -/
def summary (service : Service) : Value :=
  .ofFields
    [("started", .boolean service.started),
      ("total_classifications", .integer service.totals.classifications),
      ("structural_failures", .integer service.totals.structuralFailures),
      ("total_conflicts", .integer service.totals.conflicts),
      ("total_rule_errors", .integer service.totals.ruleErrors),
      ("pattern_cache_size", .integer service.engine.patterns.recent.count),
      ("pattern_cache_hits", .integer service.engine.patterns.hits),
      ("pattern_cache_misses", .integer service.engine.patterns.misses),
      ("hierarchy_cache_size", .integer service.engine.hierarchies.recent.count),
      ("environment_filter_enabled", .boolean service.settings.filtersEnvironments),
      ("max_workers", .integer service.settings.workers)]

end Service

end FleetConfig
