import FleetConfig.Proofs.Hierarchy.Acceptance

/-!
# Revised group sets

Validation goes by the outline of a group set: by the identifiers of its groups, their
parents and the numbers of their rules.  Groups that are revised without a change to
the outline are accepted or rejected alike; they stand where they stood and come in
the same order.
-/

namespace FleetConfig.GroupSet

/-- What validation looks at in each group: identifier, parent and number of rules. -/
def outline (groupSet : GroupSet) : List (String × Option String × Nat) :=
  groupSet.groups.map fun group => (group.id, group.parent?, group.rules.length)

variable {groupSet other : GroupSet}

section SameOutline

variable (sameOutline : other.outline = groupSet.outline)

include sameOutline

theorem parents_eq_of_outline_eq :
    other.parents = groupSet.parents := by
  have fromOutline :
      ∀ groupSet : GroupSet,
        groupSet.parents =
          groupSet.outline.map fun (id, parent?, _) => (id, parent?) := by
    intro groupSet
    simp [parents, outline]
  rw [fromOutline, fromOutline, sameOutline]

theorem excess?_eq_of_outline_eq
    (limits : CapacityLimits) :
    other.excess? limits = groupSet.excess? limits := by
  have fromOutline :
      ∀ groupSet : GroupSet,
        groupSet.excess? limits =
          (limits.groups?.bind fun limit =>
            if limit < groupSet.outline.length then
              some (.groups groupSet.outline.length limit)
            else
              none).or
          (limits.rulesPerGroup?.bind fun limit =>
            (groupSet.outline.find? fun (_, _, count) => limit < count).map
              fun (id, _, count) => CapacityExcess.rules id count limit) := by
    intro groupSet
    simp only [excess?, outline, List.length_map, List.find?_map,
      Option.map_map, Function.comp_def]
  rw [fromOutline, fromOutline, sameOutline]

/-- The revised group set is rejected for the same reason, or accepted in the same shape. -/
theorem validate_eq_of_outline_eq
    (limits : CapacityLimits) :
    other.validate limits =
      (groupSet.validate limits).map fun hierarchy =>
        { hierarchy with version := other.version } := by
  unfold validate
  rw [excess?_eq_of_outline_eq sameOutline, parents_eq_of_outline_eq sameOutline]
  cases groupSet.excess? limits with
  | some excess =>
      rfl
  | none =>
      cases groupSet.parents.defect? with
      | some defect =>
          rfl
      | none =>
          simp only [Except.map, hierarchy, parents_eq_of_outline_eq sameOutline]

/-- Under one version the same outline is validated to the same hierarchy. -/
theorem validate_congr
    (sameVersion : other.version = groupSet.version)
    (limits : CapacityLimits) :
    other.validate limits = groupSet.validate limits := by
  rw [validate_eq_of_outline_eq sameOutline, sameVersion]
  cases validated : groupSet.validate limits with
  | error error =>
      rfl
  | ok hierarchy =>
      rw [hierarchy_of_validate validated]
      rfl

theorem depth?_eq_of_outline_eq
    (id : String) :
    other.hierarchy.depth? id = groupSet.hierarchy.depth? id := by
  simp only [hierarchy, Hierarchy.depth?, parents_eq_of_outline_eq sameOutline]

theorem order_eq_of_outline_eq :
    other.hierarchy.order = groupSet.hierarchy.order := by
  simp only [hierarchy, parents_eq_of_outline_eq sameOutline]

end SameOutline

section Revised

variable {revise : Group → Group}
  (groups : other.groups = groupSet.groups.map revise)
  (sameId : ∀ group ∈ groupSet.groups, (revise group).id = group.id)

include groups sameId

theorem find?_revised
    (id : String) :
    other.find? id = (groupSet.find? id).map revise := by
  unfold GroupSet.find?
  rw [groups]
  clear groups
  generalize groupSet.groups = given at sameId ⊢
  induction given with
  | nil =>
      rfl
  | cons group rest inductionHypothesis =>
      have found :=
        inductionHypothesis fun later member =>
          sameId later (List.mem_cons_of_mem group member)
      rw [List.map_cons, List.find?_cons, List.find?_cons,
        sameId group List.mem_cons_self, found]
      split <;> rfl

/-- The revised groups come in the order of the groups. -/
theorem ordered_revised
    (sameOutline : other.outline = groupSet.outline) :
    other.ordered = groupSet.ordered.map revise := by
  unfold ordered
  rw [order_eq_of_outline_eq sameOutline, List.map_filterMap]
  exact List.filterMap_congr fun id _ => find?_revised groups sameId id

end Revised

end FleetConfig.GroupSet
