import FleetConfig.Group.Basic
import FleetConfig.Node
import FleetConfig.Rule.Evaluation

/-!
# Group membership

A node belongs to a group for one of three reasons, which are tried in order: it
is pinned, or the group has no rules and takes all nodes, or the rules match.  A
group with an environment is closed to other environments, except to its pinned
nodes and unless it assigns its environment.  All rules are evaluated, so that
every problem shows.
-/

namespace FleetConfig

/-- Why a node belongs to a group. -/
inductive MatchReason where
  | pinned
  | rules
  | matchAll
  deriving Repr, DecidableEq

namespace MatchReason

/-- The name of a reason. -/
def name : MatchReason → String
  | .pinned =>
      "pinned"
  | .rules =>
      "rules"
  | .matchAll =>
      "match_all"

end MatchReason

/-- Whether and why a node belongs to a group, with the evaluations that were made. -/
structure Membership where
  group : String
  reason? : Option MatchReason
  evaluations : List Evaluation
  filtered : Bool
  deriving Repr

namespace Membership

/-- Whether the node belongs to the group. -/
def holds (membership : Membership) : Bool :=
  membership.reason?.isSome

/-- The rules that matched. -/
def matchedRules (membership : Membership) : List String :=
  (membership.evaluations.filter (·.matched)).map (·.rule)

/-- The problems of the rules. -/
def errors (membership : Membership) : List RuleError :=
  membership.evaluations.filterMap (·.error?)

end Membership

namespace Group

/-- Whether a group is closed to an environment. -/
def excludes
    (group : Group)
    (environment? : Option String) :
    Bool :=
  group.environment?.isSome && !group.assignsEnvironment &&
    group.environment? != environment?

/-- Combine the evaluations of rules. -/
def combine (matchType : RuleMatchType) (evaluations : List Evaluation) : Bool :=
  match matchType with
  | .all =>
      evaluations.all (·.matched)
  | .any =>
      evaluations.any (·.matched)

/-- Evaluate rules one after the other. -/
def evaluateAll
    {m : Type → Type}
    [Monad m]
    (evaluate : Rule → m Evaluation) :
    List Rule → m (List Evaluation)
  | [] =>
      pure []
  | rule :: rest => do
      let evaluation ← evaluate rule
      let others ← evaluateAll evaluate rest
      pure (evaluation :: others)

/-- Decide whether a node belongs to a group; its rules are evaluated by `evaluate`. -/
def membership
    {m : Type → Type}
    [Monad m]
    (evaluate : Rule → m Evaluation)
    (filtering : Bool)
    (node : Node)
    (group : Group) :
    m Membership :=
  if group.isPinned node.certname then
    pure ⟨group.id, some .pinned, [], false⟩
  else if filtering && group.excludes node.environment? then
    pure ⟨group.id, none, [], true⟩
  else if group.rules.isEmpty then
    pure ⟨group.id, if group.matchesAllNodes then some .matchAll else none, [], false⟩
  else do
    let evaluations ← evaluateAll evaluate group.rules
    let reason? := if combine group.matchType evaluations then some .rules else none
    pure ⟨group.id, reason?, evaluations, false⟩

end Group

end FleetConfig
