import FleetConfig.Service.Engine

/-!
# Classifying nodes side by side

With more than one worker the nodes of a batch are classified side by side on one
engine.  Each classification is a work in steps.  A step changes the engine at
once, but the steps of other works may come between two steps of one work; so a
pattern that is not found is compiled in between and stored only later, by every
work that missed it.

The works are taken up in the order of the nodes, as workers get free, and their
outcomes are collected in that order.
-/

namespace FleetConfig

namespace PatternCache

/-- Look for a compiled pattern; one that is found counts as used. -/
def lookUp
    (cache : PatternCache)
    (source : String) :
    Option Compiled × PatternCache :=
  match cache.recent.find? source with
  | some compiled =>
      (some compiled,
        { cache with
          recent := cache.recent.store source compiled,
          hits := cache.hits + 1 })
  | none =>
      (none, cache)

/-- Keep a pattern that was looked for in vain. -/
def keep
    (cache : PatternCache)
    (source : String)
    (compiled : Compiled) :
    PatternCache :=
  { cache with
    recent := cache.recent.store source compiled,
    misses := cache.misses + 1 }

end PatternCache

/-- A piece of work on an engine, in steps; what comes next may depend on the engine found. -/
inductive Work (α : Type) where
  | finished (outcome : Except Failure α)
  | step (change : Engine → Engine) (next : Engine → Work α)

namespace Work

/-- One work after another, which is not begun if the first one fails. -/
def bind
    (work : Work α)
    (continuation : α → Work β) :
    Work β :=
  match work with
  | .finished (.ok value) =>
      continuation value
  | .finished (.error failure) =>
      .finished (.error failure)
  | .step change next =>
      .step change fun engine => (next engine).bind continuation

instance : Monad Work where
  pure value := .finished (.ok value)
  bind := bind

/-- Do all steps of a work without a break. -/
def run
    (work : Work α)
    (engine : Engine) :
    Except Failure α × Engine :=
  match work with
  | .finished outcome =>
      (outcome, engine)
  | .step change next =>
      (next engine).run (change engine)

/-- Whether a work has come to its outcome. -/
def isFinished : Work α → Bool
  | .finished _ =>
      true
  | .step _ _ =>
      false

/-- Record an event. -/
def record (event : Event) : Work Unit :=
  .step (fun engine => { engine with meters := engine.meters.record event })
    fun _ => pure ()

/-- Record events, each in a step of its own. -/
def recordAll : List Event → Work Unit
  | [] =>
      pure ()
  | event :: rest => do
      record event
      recordAll rest

/-- Go on with a result or fail with an error. -/
def settle
    (failure : ε → Failure)
    (result : Except ε α) :
    Work α :=
  .finished (result.mapError failure)

/-- Look a pattern up in the cache. -/
def lookUp (source : String) : Work (Option Compiled) :=
  .step
    (fun engine =>
      { engine with patterns := (engine.patterns.lookUp source).2 })
    fun engine => pure (engine.patterns.lookUp source).1

/-- Keep a compiled pattern in the cache. -/
def keep
    (source : String)
    (compiled : Compiled) :
    Work Unit :=
  .step
    (fun engine =>
      { engine with patterns := engine.patterns.keep source compiled })
    fun _ => pure ()

/-- Compile a pattern unless it is found in the cache. -/
def compile (source : String) : Work Compiled := do
  match ← lookUp source with
  | some compiled =>
      record .patternFound
      return compiled
  | none =>
      record .patternMissed
      let compiled ← settle .pattern (Pattern.compile source)
      keep source compiled
      return compiled

/-- Evaluate a rule of a group on facts. -/
def evaluate
    (facts : Value)
    (group : String)
    (rule : Rule) :
    Work Evaluation := do
  let fact? := rule.fact? facts
  let verdict ← rule.verdict compile fact?
  match verdict with
  | .ok _ =>
      pure ()
  | .error problem =>
      record (.ruleFailed problem.kind)
  return rule.evaluation (some group) fact? verdict

/-- Decide whether a node belongs to a group. -/
def membership
    (settings : Settings)
    (node : Node)
    (group : Group) :
    Work Membership :=
  group.membership (evaluate (Engine.factsFor settings node) group.id)
    settings.filtersEnvironments node

/-- Examine groups of a hierarchy one after the other; groups that are not in the set are skipped. -/
def examine
    (settings : Settings)
    (node : Node)
    (groupSet : GroupSet)
    (hierarchy : Hierarchy) :
    List String → Work (List Engine.Examined)
  | [] =>
      pure []
  | id :: rest =>
      match groupSet.find? id with
      | none =>
          examine settings node groupSet hierarchy rest
      | some group => do
          let membership ← membership settings node group
          recordAll (membership.reason?.map Event.groupMatched).toList
          let others ← examine settings node groupSet hierarchy rest
          return (group, (hierarchy.depth? id).getD 0, membership) :: others

/-- Classify a node under a validated hierarchy. -/
def resolve
    (settings : Settings)
    (node : Node)
    (groupSet : GroupSet)
    (hierarchy : Hierarchy) :
    Work ResolvedConfiguration := do
  let examined ← examine settings node groupSet hierarchy hierarchy.order
  let matched := examined.filter fun (_, _, membership) => membership.holds
  let groups := matched.map fun (group, _) => group
  let conflicts := conflictsMet groups hierarchy
  recordAll (conflicts.map fun conflict => .valuesConflicted conflict.scope)
  let merged ← settle .merge (mergeGroups groups hierarchy node.environment?)
  record (.classified true)
  return ResolvedConfiguration.sealed
    { certname := node.certname,
      environment? := merged.environment?,
      groups := examined.filterMap Engine.match?,
      classes := merged.classes,
      parameters := merged.parameters,
      globals := merged.globals,
      conflicts := merged.conflicts,
      errors := examined.flatMap fun (_, _, membership) => membership.errors,
      version := groupSet.version,
      provenance := "" }

end Work

/-- Works in the order in which they are taken up, and the engine that they share. -/
structure Pool (α : Type) where
  engine : Engine
  works : List (Work α)

namespace Pool

/--
One of the works goes one step on.  At most as many works are under way as there
are workers, and they are the first ones that are not finished.
-/
inductive Step (workers : Nat) : Pool α → Pool α → Prop where
  | proceed
      (engine : Engine)
      (change : Engine → Engine)
      (next : Engine → Work α)
      (before after : List (Work α))
      (free : (before.filter fun work => !work.isFinished).length < workers) :
      Step workers
        ⟨engine, before ++ .step change next :: after⟩
        ⟨change engine, before ++ next engine :: after⟩

/--
The outcomes collected in order: the values of all works, or the first failure.
There is nothing yet while a work is waited for.
-/
def collected? : List (Work α) → Option (Except Failure (List α))
  | [] =>
      some (.ok [])
  | .finished (.ok value) :: rest =>
      (collected? rest).map (·.map (value :: ·))
  | .finished (.error failure) :: _ =>
      some (.error failure)
  | .step _ _ :: _ =>
      none

/-- The classifications of nodes under a validated hierarchy, none of them begun. -/
def ofNodes
    (settings : Settings)
    (groupSet : GroupSet)
    (hierarchy : Hierarchy)
    (nodes : List Node)
    (engine : Engine) :
    Pool ResolvedConfiguration :=
  ⟨engine, nodes.map fun node => .resolve settings node groupSet hierarchy⟩

end Pool

end FleetConfig
