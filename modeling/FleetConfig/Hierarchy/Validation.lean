import FleetConfig.Hierarchy.Basic

/-!
# Validating the hierarchy

The checks come in a fixed order and the first that fails decides: the limits,
different identifiers, known parents, no cycles.  Cycles are found by walking up
from every group in ascending order, stopping at groups that were seen before;
a walk that stops at one of its own groups has found a cycle.  Depths are found
by the same walks, stopping at groups whose depth is known.
-/

namespace FleetConfig

namespace GroupSet

/-- Each group with the parent it names. -/
def parents (groupSet : GroupSet) : Parents :=
  groupSet.groups.map fun group => (group.id, group.parent?)

/-- The first limit that a group set exceeds. -/
def excess?
    (groupSet : GroupSet)
    (limits : CapacityLimits) :
    Option CapacityExcess :=
  let tooMany := limits.groups?.bind fun limit =>
    if limit < groupSet.groups.length then
      some (.groups groupSet.groups.length limit)
    else
      none
  let tooManyRules := limits.rulesPerGroup?.bind fun limit =>
    (groupSet.groups.find? fun group => limit < group.rules.length).map fun group =>
      CapacityExcess.rules group.id group.rules.length limit
  tooMany.or tooManyRules

end GroupSet

namespace Parents

/-- The identifiers that occur more than once, in ascending order. -/
def duplicates (parents : Parents) : List String :=
  let ids := parents.map Prod.fst
  Text.distinctAscending (ids.filter fun id => 1 < ids.count id)

/-- The groups whose parents are not there, with these parents, in ascending order. -/
def missing (parents : Parents) : List (String × String) :=
  let orphans := parents.filterMap fun (id, parent?) =>
    match parent? with
    | some parent =>
        if parents.has parent then none else some (id, parent)
    | none =>
        none
  orphans.mergeSort fun left right => Text.atMost left.1 right.1

/--
Walk up from a group until there is no parent or the group was seen before, in
at most `fuel` steps.  Gives the groups walked through and the group at which
the walk stopped, if it was one.
-/
def walk
    (parents : Parents)
    (fuel : Nat)
    (seen : List String)
    (current? : Option String) :
    List String × Option String :=
  match fuel, current? with
  | fuel + 1, some current =>
      if seen.contains current then
        ([], some current)
      else
        let (path, stop?) := walk parents fuel (current :: seen) (parents.parent? current)
        (current :: path, stop?)
  | _, _ =>
      ([], current?)

/-- The cycle at the end of a walk, as a closed path, if the walk stopped at one of its own groups. -/
def cycle?
    (path : List String)
    (stop? : Option String) :
    Option (List String) :=
  match stop? with
  | some stop =>
      if path.contains stop then
        some (path.dropWhile (· != stop) ++ [stop])
      else
        none
  | none =>
      none

/-- The cycles that walks from the given groups find, one after the other. -/
def cyclesFrom
    (parents : Parents)
    (seen : List String) :
    List String → List (List String)
  | [] =>
      []
  | start :: rest =>
      let (path, stop?) := parents.walk (parents.length + 1) seen (some start)
      (cycle? path stop?).toList ++ cyclesFrom parents (path ++ seen) rest

/-- All cycles. -/
def cycles (parents : Parents) : List (List String) :=
  parents.cyclesFrom [] (Text.ascending (parents.map Prod.fst))

/-- The first defect of the structure. -/
def defect? (parents : Parents) : Option HierarchyDefect :=
  if !parents.duplicates.isEmpty then
    some (.duplicateGroups parents.duplicates)
  else if !parents.missing.isEmpty then
    some (.unknownParents parents.missing)
  else if !parents.cycles.isEmpty then
    some (.cycles parents.cycles)
  else
    none

/-- The depth below a group whose depth is known; below none it is that of a root. -/
def depthBelow (known : List (String × Nat)) : Option String → Nat
  | some id =>
      (List.lookup id known).getD 0 + 1
  | none =>
      0

/--
Add the depths of groups and of all above them to the depths known so far.  A
walk up from each group stops where depths are known or ends at a root; the
groups on it are numbered from the top down.
-/
def depthsFrom
    (parents : Parents)
    (known : List (String × Nat)) :
    List String → List (String × Nat)
  | [] =>
      known
  | start :: rest =>
      let (path, stop?) :=
        parents.walk (parents.length + 1) (known.map Prod.fst) (some start)
      depthsFrom parents (known ++ path.reverse.zipIdx (depthBelow known stop?)) rest

/-- The depths of all groups. -/
def depths (parents : Parents) : List (String × Nat) :=
  parents.depthsFrom [] (parents.map Prod.fst)

/-- Whether a group comes before another: by depth, then by identifier. -/
def comesBefore (left right : String × Nat) : Bool :=
  if left.2 = right.2 then Text.atMost left.1 right.1 else decide (left.2 < right.2)

end Parents

namespace GroupSet

/-- The hierarchy of a group set that has no defect. -/
def hierarchy (groupSet : GroupSet) : Hierarchy :=
  let parents := groupSet.parents
  let depths := parents.depths
  { version := groupSet.version,
    depths,
    parents,
    order := (depths.mergeSort Parents.comesBefore).map Prod.fst }

/-- Validate the hierarchy of a group set under limits. -/
def validate
    (groupSet : GroupSet)
    (limits : CapacityLimits) :
    Except HierarchyError Hierarchy :=
  match groupSet.excess? limits with
  | some excess =>
      .error (.capacity excess)
  | none =>
      match groupSet.parents.defect? with
      | some defect =>
          .error (.defect defect)
      | none =>
          .ok groupSet.hierarchy

/-- Whether a walk up reaches a group or, within `fuel` steps, a group that it has seen. -/
def climbReaches
    (groupSet : GroupSet)
    (target : String)
    (fuel : Nat)
    (seen : List String)
    (current? : Option String) :
    Bool :=
  match fuel, current? with
  | fuel + 1, some current =>
      current == target || seen.contains current ||
        climbReaches groupSet target fuel (current :: seen)
          ((groupSet.find? current).bind (·.parent?))
  | _, _ =>
      false

/--
Whether a group would become its own ancestor under a new parent.  A cycle that
is already there above the new parent counts as well.
-/
def wouldCreateCycle
    (groupSet : GroupSet)
    (id : String)
    (newParent? : Option String) :
    Bool :=
  groupSet.climbReaches id (groupSet.groups.length + 2) [] newParent?

end GroupSet

end FleetConfig
