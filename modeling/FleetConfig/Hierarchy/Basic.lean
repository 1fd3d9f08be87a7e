import FleetConfig.Failure.Report
import FleetConfig.Group.Set

/-!
# The group hierarchy

Groups name their parents.  In a sound hierarchy all identifiers differ, every
parent is a group and no group is its own ancestor.  Validation settles this
once for a group set and leaves the depths of the groups, their parents and
their order: by depth, then by identifier.
-/

namespace FleetConfig

/-- Each group with the parent it names. -/
abbrev Parents :=
  List (String × Option String)

namespace Parents

/-- The parent of a group; a root and a group that is not there have none. -/
def parent?
    (parents : Parents)
    (id : String) :
    Option String :=
  (List.lookup id parents).join

/-- Whether a group is there. -/
def has
    (parents : Parents)
    (id : String) :
    Bool :=
  (List.lookup id parents).isSome

/-- The ancestors of a group, nearest first, in at most `fuel` steps. -/
def ancestorsWithin
    (parents : Parents)
    (fuel : Nat)
    (id : String) :
    List String :=
  match fuel with
  | 0 =>
      []
  | fuel + 1 =>
      match parents.parent? id with
      | some parent =>
          parent :: ancestorsWithin parents fuel parent
      | none =>
          []

/-- The ancestors of a group, nearest first; no way up is longer than there are groups. -/
def ancestors
    (parents : Parents)
    (id : String) :
    List String :=
  parents.ancestorsWithin parents.length id

end Parents

/-- How many groups and rules are allowed. -/
structure CapacityLimits where
  groups? : Option Int
  rulesPerGroup? : Option Int
  deriving Repr, DecidableEq

/-- Which limit is exceeded. -/
inductive CapacityExcess where
  | groups (actual : Nat) (limit : Int)
  | rules (group : String) (actual : Nat) (limit : Int)
  deriving Repr, DecidableEq

/-- What is wrong with the structure of a hierarchy. -/
inductive HierarchyDefect where
  | duplicateGroups (ids : List String)
  | unknownParents (missing : List (String × String))
  | cycles (paths : List (List String))
  deriving Repr, DecidableEq

/-- Why a group set is rejected. -/
inductive HierarchyError where
  | capacity (excess : CapacityExcess)
  | defect (found : HierarchyDefect)
  deriving Repr, DecidableEq

/-- A validated hierarchy. -/
structure Hierarchy where
  version : String
  depths : List (String × Nat)
  parents : Parents
  order : List String
  deriving Repr, DecidableEq

namespace CapacityExcess

/-- The report of an exceeded limit. -/
def report : CapacityExcess → ErrorReport
  | .groups actual limit =>
      .of (.capacity "max_groups" (some limit) (some actual))
        s!"Group set holds {actual} groups, limit is {limit}" []
  | .rules group actual limit =>
      .of (.capacity "max_rules_per_group" (some limit) (some actual))
        s!"Group '{group}' has {actual} rules, limit is {limit}" [("group_id", .text group)]

end CapacityExcess

namespace HierarchyDefect

/-- The report of a defect. -/
def report : HierarchyDefect → ErrorReport
  | .duplicateGroups ids =>
      .of (.duplicateGroups ids)
        s!"Duplicate group ids: {(Value.texts ids).literal}" []
  | .unknownParents missing =>
      let shown := Value.ofFields (missing.map fun (id, parent) => (id, .text parent))
      .of (.unknownParents missing)
        s!"Groups reference unknown parents: {shown.literal}" []
  | .cycles paths =>
      .of (.cycles paths)
        s!"Cycle detected in group hierarchy: {(Value.list (paths.map .texts)).literal}" []

end HierarchyDefect

namespace HierarchyError

/-- The report of why a group set is rejected. -/
def report : HierarchyError → ErrorReport
  | .capacity excess =>
      excess.report
  | .defect found =>
      found.report

end HierarchyError

namespace Hierarchy

/-- The depth of a group. -/
def depth?
    (hierarchy : Hierarchy)
    (id : String) :
    Option Nat :=
  hierarchy.depths.lookup id

/-- The ancestors of a group, from its parent up to the root. -/
def ancestors
    (hierarchy : Hierarchy)
    (id : String) :
    List String :=
  hierarchy.parents.ancestors id

/-- The groups without a parent, in order. -/
def roots (hierarchy : Hierarchy) : List String :=
  hierarchy.order.filter fun id => hierarchy.depth? id == some 0

/-- A hierarchy as a record of plain values. -/
def toPlain (hierarchy : Hierarchy) : Value :=
  .ofFields
    [("group_set_version", .text hierarchy.version),
      ("depths", .ofFields (hierarchy.depths.map fun (id, depth) => (id, .integer depth))),
      ("parents", .ofFields (hierarchy.parents.map fun (id, parent?) =>
        (id, .optionalText parent?))),
      ("order", .texts hierarchy.order)]

end Hierarchy

end FleetConfig
