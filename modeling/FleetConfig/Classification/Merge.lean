import FleetConfig.Hierarchy.Basic

/-!
# Merging groups

What the groups of a node set is merged by depth: the deepest group that sets a
key decides its value, and among groups of one depth the one with the least
identifier.  Groups of one depth that disagree on a key are in conflict, whether
or not a deeper group decides.
-/

namespace FleetConfig

/-- What a conflict is about. -/
inductive ConflictScope where
  | parameters
  | globals
  | environment
  deriving Repr, DecidableEq

/-- Groups of one depth that disagree on the value of a key. -/
structure Conflict where
  key : String
  scope : ConflictScope
  depth : Nat
  groupIds : List String
  chosen : Value
  values : Fields
  deriving Repr

/-- The value that a group at some depth sets. -/
structure Proposal where
  depth : Nat
  group : String
  value : Value
  deriving Repr

/-- What the groups of a node set together. -/
structure Merged where
  classes : List String
  parameters : Fields
  globals : Fields
  environment? : Option String
  conflicts : List Conflict
  deriving Repr

/-- Why groups cannot be merged. -/
inductive MergeError where
  | unknownGroup (id : String)
  | incomparableKeys
  deriving Repr, DecidableEq

namespace ConflictScope

/-- The name of a scope. -/
def name : ConflictScope → String
  | .parameters =>
      "parameters"
  | .globals =>
      "variables"
  | .environment =>
      "environment"

end ConflictScope

namespace Conflict

/-- A conflict as a record of plain values. -/
def toPlain (conflict : Conflict) : Value :=
  .ofFields
    [("key", .text conflict.key),
      ("scope", .text conflict.scope.name),
      ("depth", .integer conflict.depth),
      ("group_ids", .texts conflict.groupIds),
      ("chosen_value", conflict.chosen.plain),
      ("values", .ofFields (Value.plainFields conflict.values))]

end Conflict

namespace Proposal

/-- The proposals made at one depth. -/
def atDepth
    (depth : Nat)
    (proposals : List Proposal) :
    List Proposal :=
  proposals.filter (·.depth == depth)

/-- Whether proposals differ in their values. -/
def disagree : List Proposal → Bool
  | [] =>
      false
  | first :: rest =>
      rest.any fun other => other.value.canonicalJson != first.value.canonicalJson

/-- The conflict between proposals of one depth, if they differ; the first of them is chosen. -/
def conflict?
    (key : String)
    (scope : ConflictScope)
    (depth : Nat)
    (proposals : List Proposal) :
    Option Conflict :=
  if disagree proposals then
    proposals.head?.map fun first =>
      { key,
        scope,
        depth,
        groupIds := proposals.map (·.group),
        chosen := first.value,
        values := Fields.overlay [] (proposals.map fun proposal =>
          (proposal.group, proposal.value)) }
  else
    none

/-- The depths of proposals, each once, in the order of the proposals. -/
def depths (proposals : List Proposal) : List Nat :=
  (proposals.map (·.depth)).eraseDups

/-- The conflicts between proposals for one key. -/
def conflicts
    (key : String)
    (scope : ConflictScope)
    (proposals : List Proposal) :
    List Conflict :=
  (depths proposals).filterMap fun depth =>
    conflict? key scope depth (atDepth depth proposals)

/-- The value that is decided on: the first one at the last depth. -/
def decided? (proposals : List Proposal) : Option Value :=
  (depths proposals).getLast?.bind fun depth =>
    (atDepth depth proposals).head?.map (·.value)

end Proposal

/-- A group at its depth. -/
abbrev PlacedGroup :=
  Nat × Group

namespace PlacedGroup

/-- Place groups at their depths. -/
def place
    (hierarchy : Hierarchy) :
    List Group → Except MergeError (List PlacedGroup)
  | [] =>
      .ok []
  | group :: rest =>
      match hierarchy.depth? group.id with
      | some depth =>
          (place hierarchy rest).map ((depth, group) :: ·)
      | none =>
          .error (.unknownGroup group.id)

/-- Put groups in order: by depth, then by identifier. -/
def inOrder (groups : List PlacedGroup) : List PlacedGroup :=
  groups.mergeSort fun left right =>
    if left.1 = right.1 then
      Text.atMost left.2.id right.2.id
    else
      decide (left.1 < right.1)

/-- What groups in order propose for a key. -/
def proposals
    (payload : Group → Fields)
    (groups : List PlacedGroup)
    (key : String) :
    List Proposal :=
  groups.filterMap fun (depth, group) =>
    (Fields.find? (payload group) key).map fun value => ⟨depth, group.id, value⟩

/-- The keys that groups set, in ascending order. -/
def keys
    (payload : Group → Fields)
    (groups : List PlacedGroup) :
    List String :=
  Text.distinctAscending (groups.flatMap fun (_, group) => (payload group).map Prod.fst)

/-- The values decided on for all keys. -/
def values
    (payload : Group → Fields)
    (groups : List PlacedGroup) :
    Fields :=
  (keys payload groups).filterMap fun key =>
    (Proposal.decided? (proposals payload groups key)).map fun value => (key, value)

/-- The conflicts over all keys. -/
def conflicts
    (payload : Group → Fields)
    (scope : ConflictScope)
    (groups : List PlacedGroup) :
    List Conflict :=
  (keys payload groups).flatMap fun key =>
    Proposal.conflicts key scope (proposals payload groups key)

/-- The environment that a group assigns, as fields with one key. -/
def assignedEnvironment (group : Group) : Fields :=
  match group.environment? with
  | some environment =>
      if group.assignsEnvironment && !environment.isEmpty then
        [("environment", .text environment)]
      else
        []
  | none =>
      []

/-- The environment that groups assign, or else the one the node reports. -/
def environment?
    (groups : List PlacedGroup)
    (reported? : Option String) :
    Option String :=
  match Proposal.decided? (proposals assignedEnvironment groups "environment") with
  | some (.text environment) =>
      some environment
  | _ =>
      reported?

/-- The proposals of groups in order, by key and then by depth, with what they are about. -/
def levels
    (payload : Group → Fields)
    (scope : ConflictScope)
    (groups : List PlacedGroup) :
    List (String × ConflictScope × Nat × List Proposal) :=
  (keys payload groups).flatMap fun key =>
    let proposals := proposals payload groups key
    (Proposal.depths proposals).map fun depth =>
      (key, scope, depth, Proposal.atDepth depth proposals)

/-- The conflicts that come before the first value that cannot be written with sorted keys. -/
def conflictsBeforeFailure (groups : List PlacedGroup) : List Conflict :=
  let levels :=
    levels Group.parameters .parameters groups ++
      levels Group.globals .globals groups ++
      levels assignedEnvironment .environment groups
  let reached := levels.takeWhile fun (_, _, _, proposals) => proposals.all (·.value.isSortable)
  reached.filterMap fun (key, scope, depth, proposals) =>
    Proposal.conflict? key scope depth proposals

/-- Whether the values that groups set can be written with sorted keys. -/
def areComparable (groups : List PlacedGroup) : Bool :=
  groups.all fun (_, group) =>
    group.parameters.all (·.2.isSortable) && group.globals.all (·.2.isSortable)

end PlacedGroup

open PlacedGroup in
/-- Merge the groups of a node. -/
def mergeGroups
    (groups : List Group)
    (hierarchy : Hierarchy)
    (reported? : Option String) :
    Except MergeError Merged :=
  match place hierarchy groups with
  | .error error =>
      .error error
  | .ok placed =>
      let ordered := inOrder placed
      if areComparable ordered then
        .ok
          { classes := Text.distinctAscending (ordered.flatMap fun (_, group) => group.classes),
            parameters := values Group.parameters ordered,
            globals := values Group.globals ordered,
            environment? := environment? ordered reported?,
            conflicts :=
              conflicts Group.parameters .parameters ordered ++
                conflicts Group.globals .globals ordered ++
                conflicts assignedEnvironment .environment ordered }
      else
        .error .incomparableKeys

open PlacedGroup in
/-- The conflicts that merging the groups of a node comes upon. -/
def conflictsMet
    (groups : List Group)
    (hierarchy : Hierarchy) :
    List Conflict :=
  match place hierarchy groups with
  | .error _ =>
      []
  | .ok placed =>
      conflictsBeforeFailure (inOrder placed)

end FleetConfig
