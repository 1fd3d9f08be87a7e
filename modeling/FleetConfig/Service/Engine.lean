import FleetConfig.Classification.Resolved
import FleetConfig.Hierarchy.Cache
import FleetConfig.Pattern.Cache
import FleetConfig.Service.Meters
import FleetConfig.Settings

/-!
# The classification engine

The engine works for a group set on one node at a time.  What it keeps between
two pieces of work are its caches and meters; an action is a piece of work that
may change them and may fail.
-/

namespace FleetConfig

/-- What the engine keeps. -/
structure Engine where
  patterns : PatternCache
  hierarchies : HierarchyCache
  meters : Meters

/-- Why an action fails. -/
inductive Failure where
  | rejected (error : HierarchyError)
  | pattern (fatal : Pattern.Fatal)
  | merge (error : MergeError)
  | groupNotFound (id : String)
  deriving Repr

/-- A piece of work of the engine. -/
abbrev Action :=
  ExceptT Failure (StateM Engine)

namespace Failure

/-- Whether the structure of a group set is at fault. -/
def isStructural : Failure → Bool
  | .rejected (.defect _) =>
      true
  | _ =>
      false

end Failure

namespace Engine

/-- The limits that settings put on group sets. -/
def limits (settings : Settings) : CapacityLimits :=
  ⟨some settings.groupLimit, some settings.ruleLimit⟩

/-- An engine with empty caches. -/
def fresh
    (settings : Settings)
    (meters : Meters) :
    Engine :=
  { patterns := .ofSize settings.patternCacheSize,
    hierarchies := .ofSize settings.hierarchyCacheSize (limits settings),
    meters }

/-- Record an event. -/
def record (event : Event) : Action Unit :=
  modify fun engine => { engine with meters := engine.meters.record event }

/-- Record events one after the other. -/
def recordAll (events : List Event) : Action Unit :=
  modify fun engine => { engine with meters := engine.meters.recordAll events }

/-- Go on with a result or fail with an error. -/
def settle
    (failure : ε → Failure) :
    Except ε α → Action α
  | .ok value =>
      pure value
  | .error error =>
      throw (failure error)

/-- Compile a pattern, through the cache. -/
def compile (source : String) : Action Compiled := do
  let engine ← get
  record (if engine.patterns.has source then .patternFound else .patternMissed)
  let (compiled, patterns) := engine.patterns.request source
  modify fun engine => { engine with patterns }
  settle .pattern compiled

/-- The events of asking for a hierarchy, given what came of it. -/
def hierarchyEvents (found : Bool) : Except HierarchyError Hierarchy → List Event
  | .ok _ =>
      if found then [.hierarchyFound] else [.hierarchyValidated .valid]
  | .error (.defect defect) =>
      [.hierarchyValidated (.ofDefect defect)]
  | .error (.capacity _) =>
      []

/-- The number of groups that the meters show after asking for a hierarchy. -/
def groupsShown (found : Bool) (before : Nat) : Except HierarchyError Hierarchy → Nat
  | .ok hierarchy =>
      if found then before else hierarchy.order.length
  | .error _ =>
      before

/-- Validate the hierarchy of a group set, through the cache. -/
def validate (groupSet : GroupSet) : Action Hierarchy := do
  let engine ← get
  let found := engine.hierarchies.has groupSet.version
  let (result, hierarchies) := engine.hierarchies.request groupSet
  let meters := engine.meters.recordAll (hierarchyEvents found result)
  set
    { engine with
      hierarchies,
      meters := { meters with groups := groupsShown found meters.groups result } }
  settle .rejected result

/-- Evaluate a rule of a group on facts. -/
def evaluate
    (facts : Value)
    (group : String)
    (rule : Rule) :
    Action Evaluation := do
  let fact? := rule.fact? facts
  let verdict ← rule.verdict compile fact?
  match verdict with
  | .ok _ =>
      pure ()
  | .error problem =>
      record (.ruleFailed problem.kind)
  return rule.evaluation (some group) fact? verdict

/-- The facts of a node as the rules see them. -/
def factsFor
    (settings : Settings)
    (node : Node) :
    Value :=
  .ofFields (if settings.injectsCertname then node.factsWithCertname else node.facts)

/-- Decide whether a node belongs to a group. -/
def membership
    (settings : Settings)
    (node : Node)
    (group : Group) :
    Action Membership :=
  group.membership (evaluate (factsFor settings node) group.id) settings.filtersEnvironments node

/-- A group with what was found out about the membership of a node. -/
abbrev Examined :=
  Group × Nat × Membership

/-- Examine groups of a hierarchy one after the other; groups that are not in the set are skipped. -/
def examine
    (settings : Settings)
    (node : Node)
    (groupSet : GroupSet)
    (hierarchy : Hierarchy) :
    List String → Action (List Examined)
  | [] =>
      pure []
  | id :: rest =>
      match groupSet.find? id with
      | none =>
          examine settings node groupSet hierarchy rest
      | some group => do
          let membership ← membership settings node group
          recordAll (membership.reason?.map Event.groupMatched).toList
          let others ← examine settings node groupSet hierarchy rest
          return (group, (hierarchy.depth? id).getD 0, membership) :: others

/-- The group match that an examined group stands for, if the node belongs to it. -/
def match? : Examined → Option GroupMatch
  | (group, depth, membership) =>
      membership.reason?.map fun reason =>
        ⟨group.id, group.name, depth, reason, membership.matchedRules⟩

/-- Classify a node under a validated hierarchy. -/
def resolve
    (settings : Settings)
    (node : Node)
    (groupSet : GroupSet)
    (hierarchy : Hierarchy) :
    Action ResolvedConfiguration := do
  let examined ← examine settings node groupSet hierarchy hierarchy.order
  let matched := examined.filter fun (_, _, membership) => membership.holds
  let groups := matched.map fun (group, _) => group
  let conflicts := conflictsMet groups hierarchy
  recordAll (conflicts.map fun conflict => .valuesConflicted conflict.scope)
  let merged ← settle .merge (mergeGroups groups hierarchy node.environment?)
  record (.classified true)
  return ResolvedConfiguration.sealed
    { certname := node.certname,
      environment? := merged.environment?,
      groups := examined.filterMap match?,
      classes := merged.classes,
      parameters := merged.parameters,
      globals := merged.globals,
      conflicts := merged.conflicts,
      errors := examined.flatMap fun (_, _, membership) => membership.errors,
      version := groupSet.version,
      provenance := "" }

/-- Do something when an action fails, and fail all the same. -/
def onFailure
    (action : Action α)
    (handle : Failure → Action Unit) :
    Action α :=
  tryCatch action fun failure => do
    handle failure
    throw failure

/-- Classify a node. -/
def classify
    (settings : Settings)
    (node : Node)
    (groupSet : GroupSet) :
    Action ResolvedConfiguration := do
  let hierarchy ← onFailure (validate groupSet) fun failure =>
    if failure.isStructural then record (.classified false) else pure ()
  resolve settings node groupSet hierarchy

/-- Classify nodes under a validated hierarchy, one after the other. -/
def resolveAll
    (settings : Settings)
    (groupSet : GroupSet)
    (hierarchy : Hierarchy) :
    List Node → Action (List ResolvedConfiguration)
  | [] =>
      pure []
  | node :: rest => do
      let resolved ← resolve settings node groupSet hierarchy
      let others ← resolveAll settings groupSet hierarchy rest
      return resolved :: others

/-- Classify nodes; the hierarchy is validated once. -/
def classifyMany
    (settings : Settings)
    (nodes : List Node)
    (groupSet : GroupSet) :
    Action (List ResolvedConfiguration) := do
  let hierarchy ← validate groupSet
  resolveAll settings groupSet hierarchy nodes

/-- The nodes that belong to a group, in the order given. -/
def membersAmong
    (settings : Settings)
    (group : Group) :
    List Node → Action (List String)
  | [] =>
      pure []
  | node :: rest => do
      let membership ← membership settings node group
      let others ← membersAmong settings group rest
      return if membership.holds then node.certname :: others else others

/-- The certnames of the nodes that belong to a group, in ascending order. -/
def nodesInGroup
    (settings : Settings)
    (id : String)
    (nodes : List Node)
    (groupSet : GroupSet) :
    Action (List String) := do
  let _ ← validate groupSet
  match groupSet.find? id with
  | none =>
      throw (.groupNotFound id)
  | some group =>
      return Text.distinctAscending (← membersAmong settings group nodes)

/-- Run an action. -/
def run
    (engine : Engine)
    (action : Action α) :
    Except Failure α × Engine :=
  StateT.run (ExceptT.run action) engine

end Engine

end FleetConfig
