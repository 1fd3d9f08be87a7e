import FleetConfig.Classification.Merge
import FleetConfig.Group.Membership

/-!
# Meters

Meters count what happens in the engine and remember how many groups the last
validated group set had.
-/

namespace FleetConfig

/-- What validating a hierarchy comes to. -/
inductive ValidationOutcome where
  | valid
  | duplicate
  | unknownParent
  | cycle
  deriving Repr, DecidableEq

/-- What meters count. -/
inductive Event where
  | classified (successful : Bool)
  | groupMatched (reason : MatchReason)
  | ruleFailed (kind : ProblemKind)
  | valuesConflicted (scope : ConflictScope)
  | hierarchyValidated (outcome : ValidationOutcome)
  | patternFound
  | patternMissed
  | hierarchyFound
  deriving Repr, DecidableEq

/-- How often each event happened, and the size of the last validated group set. -/
structure Meters where
  counts : List (Event × Nat)
  groups : Nat
  deriving Repr

namespace ValidationOutcome

/-- The name of an outcome. -/
def name : ValidationOutcome → String
  | .valid =>
      "valid"
  | .duplicate =>
      "duplicate"
  | .unknownParent =>
      "unknown_parent"
  | .cycle =>
      "cycle"

/-- The outcome that a defect stands for. -/
def ofDefect : HierarchyDefect → ValidationOutcome
  | .duplicateGroups _ =>
      .duplicate
  | .unknownParents _ =>
      .unknownParent
  | .cycles _ =>
      .cycle

end ValidationOutcome

namespace Event

/-- The name under which an event is counted. -/
def name : Event → String
  | .classified successful =>
      let result := if successful then "success" else "structural_error"
      s!"nodeclass_classifications_total\x7bresult={result}\x7d"
  | .groupMatched reason =>
      s!"nodeclass_groups_matched_total\x7bmatch_type={reason.name}\x7d"
  | .ruleFailed kind =>
      s!"nodeclass_rule_errors_total\x7bkind={kind.name}\x7d"
  | .valuesConflicted scope =>
      s!"nodeclass_merge_conflicts_total\x7bscope={scope.name}\x7d"
  | .hierarchyValidated outcome =>
      s!"nodeclass_hierarchy_validations_total\x7bresult={outcome.name}\x7d"
  | .patternFound =>
      "nodeclass_pattern_cache_hits_total"
  | .patternMissed =>
      "nodeclass_pattern_cache_misses_total"
  | .hierarchyFound =>
      "nodeclass_hierarchy_cache_hits_total"

/-- Whether an event is the end of a classification, successful or not. -/
def isClassification : Event → Bool
  | .classified _ =>
      true
  | _ =>
      false

end Event

namespace Meters

/-- Meters before anything happened. -/
def zero : Meters :=
  ⟨[], 0⟩

/-- Count one more of an event. -/
def count
    (event : Event) :
    List (Event × Nat) → List (Event × Nat)
  | [] =>
      [(event, 1)]
  | (other, number) :: rest =>
      if other = event then
        (other, number + 1) :: rest
      else
        (other, number) :: count event rest

/-- Record an event. -/
def record
    (meters : Meters)
    (event : Event) :
    Meters :=
  { meters with counts := count event meters.counts }

/-- Record events one after the other. -/
def recordAll
    (meters : Meters)
    (events : List Event) :
    Meters :=
  events.foldl record meters

/-- How many classifications came to an end. -/
def classifications (meters : Meters) : Nat :=
  ((meters.counts.filter (·.1.isClassification)).map Prod.snd).foldr (· + ·) 0

/-- The meters as a record: the events that happened, the classifications timed, the groups. -/
def toPlain (meters : Meters) : Value :=
  let timed :=
    if meters.classifications = 0 then
      []
    else
      [("nodeclass_classification_duration_seconds_count",
        Value.integer meters.classifications)]
  .ofFields
    (meters.counts.map (fun (event, number) => (event.name, .integer number)) ++ timed ++
      [("nodeclass_groups_total", .integer meters.groups)])

end Meters

end FleetConfig
