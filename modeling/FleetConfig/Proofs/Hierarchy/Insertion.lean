import FleetConfig.Proofs.Hierarchy.Rearrangement

/-!
# Groups that are added

A group with a new identifier and a known parent, or none, can be added anywhere
among the groups of a sound hierarchy.  It stays sound, no other group changes its
place, and the new one is the only one to come into the order.
-/

namespace FleetConfig

/-- A sound hierarchy has no defect. -/
theorem Parents.Sound.defect?_eq_none
    {parents : Parents}
    (sound : parents.Sound) :
    parents.defect? = none :=
  defect?_eq_none_iff.mpr
    ⟨sound.distinct, sound.closed, fun _ above => sound.ne_of_hasAncestor above rfl⟩

namespace GroupSet

/--
A group set holds the groups of another one in their order and, anywhere among
them, one more: it has a new identifier, and it is a root or names a known parent.
-/
structure Adds
    (extended groupSet : GroupSet)
    (group : Group) :
    Prop where
  inserted :
    ∃ before after,
      groupSet.groups = before ++ after ∧
        extended.groups = before ++ group :: after
  isNew : group.id ∉ groupSet.ids
  knowsParent : ∀ parent ∈ group.parent?, parent ∈ groupSet.ids

namespace Adds

variable {extended groupSet : GroupSet} {group : Group}

theorem groups_perm
    (adds : extended.Adds groupSet group) :
    extended.groups.Perm (group :: groupSet.groups) := by
  obtain ⟨before, after, shape, extendedShape⟩ := adds.inserted
  rw [shape, extendedShape]
  exact List.perm_middle

theorem mem_iff
    (adds : extended.Adds groupSet group)
    {other : Group} :
    other ∈ extended.groups ↔ other = group ∨ other ∈ groupSet.groups := by
  rw [adds.groups_perm.mem_iff, List.mem_cons]

theorem parents_perm
    (adds : extended.Adds groupSet group) :
    extended.parents.Perm ((group.id, group.parent?) :: groupSet.parents) :=
  adds.groups_perm.map _

theorem parents_subset
    (adds : extended.Adds groupSet group) :
    groupSet.parents ⊆ extended.parents := by
  intro entry listed
  exact adds.parents_perm.mem_iff.mpr (List.mem_cons_of_mem _ listed)

theorem not_mem_map_fst_parents
    (adds : extended.Adds groupSet group) :
    group.id ∉ groupSet.parents.map Prod.fst := by
  rw [map_fst_parents]
  exact adds.isNew

/-- The group that is added stands below its parent, or as a root. -/
theorem grounded
    (adds : extended.Adds groupSet group)
    (sound : groupSet.parents.Sound) :
    extended.parents.Grounded group.id := by
  have listed : (group.id, group.parent?) ∈ extended.parents :=
    adds.parents_perm.mem_iff.mpr List.mem_cons_self
  cases named : group.parent? with
  | none =>
      rw [named] at listed
      exact ⟨0, .root listed⟩
  | some parent =>
      rw [named] at listed
      have known := adds.knowsParent parent named
      obtain ⟨above, member, rfl⟩ := List.mem_map.mp known
      obtain ⟨depth, stands⟩ := grounded_of_mem sound member
      exact ⟨depth + 1, .child listed (stands.of_subset adds.parents_subset)⟩

/-- A sound hierarchy stays sound. -/
theorem sound
    (adds : extended.Adds groupSet group)
    (sound : groupSet.parents.Sound) :
    extended.parents.Sound := by
  have ids := adds.parents_perm.map Prod.fst
  constructor
  case distinct =>
    exact ids.nodup_iff.mpr
      (List.nodup_cons.mpr ⟨adds.not_mem_map_fst_parents, sound.distinct⟩)
  case grounded =>
    intro id known
    rcases List.mem_cons.mp (ids.mem_iff.mp known) with rfl | knownBefore
    · exact adds.grounded sound
    · obtain ⟨depth, stands⟩ := sound.grounded id knownBefore
      exact ⟨depth, stands.of_subset adds.parents_subset⟩

/-- The groups that were there stay as deep as they are. -/
theorem depth?_eq
    (adds : extended.Adds groupSet group)
    (sound : groupSet.parents.Sound)
    {other : Group}
    (member : other ∈ groupSet.groups) :
    extended.hierarchy.depth? other.id = groupSet.hierarchy.depth? other.id := by
  obtain ⟨depth, found, stands⟩ := exists_depth sound member
  rw [found, depth?_eq_some_iff (adds.sound sound)]
  exact stands.of_subset adds.parents_subset

theorem place_eq
    (adds : extended.Adds groupSet group)
    (sound : groupSet.parents.Sound)
    {other : Group}
    (member : other ∈ groupSet.groups) :
    extended.hierarchy.place other.id = groupSet.hierarchy.place other.id := by
  unfold Hierarchy.place
  rw [adds.depth?_eq sound member]

/-- In the order the new group comes in between, and nothing else changes. -/
theorem exists_ordered
    (adds : extended.Adds groupSet group)
    (sound : groupSet.parents.Sound) :
    ∃ earlier later,
      groupSet.ordered = earlier ++ later ∧
        extended.ordered = earlier ++ group :: later := by
  have extendedSound := adds.sound sound
  have permuted := ordered_perm extendedSound
  have listed : group ∈ extended.ordered :=
    permuted.mem_iff.mpr (adds.mem_iff.mpr (.inl rfl))
  obtain ⟨earlier, later, shape⟩ := List.append_of_mem listed
  refine ⟨earlier, later, ?_, shape⟩
  rw [shape] at permuted
  have others : (earlier ++ later).Perm groupSet.groups :=
    ((List.perm_middle.symm.trans permuted).trans adds.groups_perm).cons_inv
  have inOrder :
      (earlier ++ later).Pairwise fun left right =>
        Place.Before (groupSet.hierarchy.place left.id)
          (groupSet.hierarchy.place right.id) := by
    have ordered := ordered_pairwise extendedSound
    rw [shape] at ordered
    have sublist : (earlier ++ later).Sublist (earlier ++ group :: later) :=
      (List.sublist_cons_self group later).append_left earlier
    refine (ordered.sublist sublist).imp_of_mem ?_
    intro left right leftListed rightListed before
    rw [adds.place_eq sound (others.subset leftListed),
      adds.place_eq sound (others.subset rightListed)] at before
    exact before
  apply Place.eq_of_mem_iff_of_before
    (fun other : Group => groupSet.hierarchy.place other.id)
    (ordered_pairwise sound) inOrder
  intro other
  rw [(ordered_perm sound).mem_iff, others.mem_iff]

end Adds

end GroupSet

end FleetConfig
