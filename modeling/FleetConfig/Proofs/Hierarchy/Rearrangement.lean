import FleetConfig.Proofs.Hierarchy.Acceptance

/-!
# Rearranged groups

The order in which groups are given does not matter.  Rearranged groups have the
same defect, and if they have none, the same depths and the same order.
-/

namespace FleetConfig

namespace Parents

section Perm

variable {parents others : Parents}

theorem duplicates_eq_of_perm
    (permuted : parents.Perm others) :
    parents.duplicates = others.duplicates := by
  have ids := permuted.map Prod.fst
  unfold duplicates
  apply Text.distinctAscending_congr
  intro id
  rw [List.mem_filter, List.mem_filter, ids.mem_iff, ids.count_eq]

theorem has_eq_of_perm
    (permuted : parents.Perm others)
    (id : String) :
    parents.has id = others.has id := by
  unfold has
  rw [Bool.eq_iff_iff, Entries.lookup_isSome_iff, Entries.lookup_isSome_iff]
  exact (permuted.map Prod.fst).mem_iff

theorem missing_perm
    (permuted : parents.Perm others) :
    parents.missing.Perm others.missing := by
  unfold missing
  simp only [has_eq_of_perm permuted]
  exact (List.mergeSort_perm _ _).trans
    ((permuted.filterMap _).trans (List.mergeSort_perm _ _).symm)

/--
Rearranged groups with different identifiers miss the same parents in the same
order.
-/
theorem missing_eq_of_perm
    (distinct : (parents.map Prod.fst).Nodup)
    (permuted : parents.Perm others) :
    parents.missing = others.missing := by
  have rearranged := missing_perm permuted
  have antisymmetric :
      ∀ left right,
        left ∈ parents.missing →
        right ∈ others.missing →
        ¬ right.1 < left.1 →
        ¬ left.1 < right.1 →
        left = right := by
    -- Only the identifiers are compared, so the parents must follow from them.
    rintro ⟨id, parent⟩ ⟨otherId, otherParent⟩ member otherMember first second
    have sameId : id = otherId :=
      String.le_antisymm (String.not_lt.mp first) (String.not_lt.mp second)
    subst sameId
    have listed := (mem_missing.mp member).1
    have otherListed :=
      (mem_missing.mp (rearranged.mem_iff.mpr otherMember)).1
    have sameParent :=
      (parent?_eq_of_mem distinct listed).symm.trans
        (parent?_eq_of_mem distinct otherListed)
    rw [Option.some.inj sameParent]
  exact List.Perm.eq_of_pairwise antisymmetric (missing_pairwise parents)
    (missing_pairwise others) rearranged

theorem parent?_eq_of_perm
    (distinct : (parents.map Prod.fst).Nodup)
    (permuted : parents.Perm others)
    (id : String) :
    parents.parent? id = others.parent? id := by
  unfold Parents.parent?
  rw [Entries.lookup_eq_of_perm distinct permuted]

/-- Walks go by the parents alone. -/
theorem walk_congr
    (same : ∀ id, parents.parent? id = others.parent? id)
    (fuel : Nat)
    (seen : List String)
    (current? : Option String) :
    parents.walk fuel seen current? = others.walk fuel seen current? := by
  induction fuel generalizing seen current? with
  | zero =>
      cases current? <;> rfl
  | succ fuel inductionHypothesis =>
      cases current? with
      | none =>
          rfl
      | some current =>
          unfold walk
          rw [same, inductionHypothesis]

/-- Which cycles are found depends on the parents and on the number of groups alone. -/
theorem cyclesFrom_congr
    (same : ∀ id, parents.parent? id = others.parent? id)
    (sameLength : parents.length = others.length)
    (seen starts : List String) :
    parents.cyclesFrom seen starts = others.cyclesFrom seen starts := by
  induction starts generalizing seen with
  | nil =>
      rfl
  | cons start rest inductionHypothesis =>
      unfold cyclesFrom
      simp only [sameLength, walk_congr same, inductionHypothesis]

theorem cycles_eq_of_perm
    (distinct : (parents.map Prod.fst).Nodup)
    (permuted : parents.Perm others) :
    parents.cycles = others.cycles := by
  unfold cycles
  rw [Text.ascending_eq_of_perm (permuted.map Prod.fst)]
  exact cyclesFrom_congr (parent?_eq_of_perm distinct permuted)
    permuted.length_eq [] _

/-- Rearranged groups have the same defect, if any. -/
theorem defect?_eq_of_perm
    (permuted : parents.Perm others) :
    parents.defect? = others.defect? := by
  have duplicates := duplicates_eq_of_perm permuted
  unfold defect?
  rw [← duplicates]
  split
  case isTrue =>
    rfl
  case isFalse noDuplicate =>
    -- Parents and cycles are only looked for once all identifiers differ.
    have distinct : (parents.map Prod.fst).Nodup :=
      duplicates_eq_nil_iff.mp (by simpa using noDuplicate)
    rw [missing_eq_of_perm distinct permuted,
      cycles_eq_of_perm distinct permuted]

/-- Depths go by the parent links alone. -/
theorem HasDepth.of_subset
    (subset : parents ⊆ others)
    {id : String}
    {depth : Nat}
    (stands : parents.HasDepth id depth) :
    others.HasDepth id depth := by
  induction stands with
  | root listed =>
      exact .root (subset listed)
  | child listed above inductionHypothesis =>
      exact .child (subset listed) inductionHypothesis

theorem hasDepth_iff_of_perm
    (permuted : parents.Perm others)
    (id : String)
    (depth : Nat) :
    parents.HasDepth id depth ↔ others.HasDepth id depth :=
  ⟨HasDepth.of_subset permuted.subset,
    HasDepth.of_subset permuted.symm.subset⟩

end Perm

end Parents

namespace GroupSet

section Perm

variable {groupSet other : GroupSet}

theorem excess?_eq_none_of_perm
    (permuted : groupSet.groups.Perm other.groups)
    {limits : CapacityLimits}
    (within : groupSet.excess? limits = none) :
    other.excess? limits = none := by
  rw [excess?_eq_none_iff] at within ⊢
  obtain ⟨groups, rules⟩ := within
  constructor
  · intro limit isLimit
    rw [← permuted.length_eq]
    exact groups limit isLimit
  · intro limit isLimit group member
    exact rules limit isLimit group (permuted.mem_iff.mpr member)

theorem parents_perm
    (permuted : groupSet.groups.Perm other.groups) :
    groupSet.parents.Perm other.parents :=
  permuted.map _

theorem place_eq_of_perm
    (sound : groupSet.parents.Sound)
    (otherSound : other.parents.Sound)
    (permuted : groupSet.groups.Perm other.groups)
    (id : String) :
    groupSet.hierarchy.place id = other.hierarchy.place id := by
  have sameDepth :
      groupSet.hierarchy.depth? id = other.hierarchy.depth? id := by
    apply Option.ext
    intro depth
    rw [depth?_eq_some_iff sound, depth?_eq_some_iff otherSound,
      Parents.hasDepth_iff_of_perm (parents_perm permuted)]
  unfold Hierarchy.place
  rw [sameDepth]

/-- Rearranged groups are put in the same order. -/
theorem ordered_eq_of_perm
    (sound : groupSet.parents.Sound)
    (otherSound : other.parents.Sound)
    (permuted : groupSet.groups.Perm other.groups) :
    groupSet.ordered = other.ordered := by
  have otherOrdered := ordered_pairwise otherSound
  simp only [← place_eq_of_perm sound otherSound permuted] at otherOrdered
  apply Place.eq_of_mem_iff_of_before
    (fun group : Group => groupSet.hierarchy.place group.id)
    (ordered_pairwise sound) otherOrdered
  intro group
  rw [(ordered_perm sound).mem_iff, (ordered_perm otherSound).mem_iff]
  exact permuted.mem_iff

end Perm

end GroupSet

end FleetConfig
