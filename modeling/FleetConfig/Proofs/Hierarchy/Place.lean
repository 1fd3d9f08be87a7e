import FleetConfig.Classification.Merge
import FleetConfig.Hierarchy.Validation
import FleetConfig.Proofs.Text.Order

/-!
# Places of groups

The place of a group is its depth together with its identifier.  Groups are
examined and merged in order of their places; where all places differ there is
only one such order.
-/

namespace FleetConfig

/-- Where a group stands: its depth and its identifier. -/
abbrev Place :=
  Nat × String

namespace Place

/--
A place comes before another: less deep, or equally deep under a lesser
identifier.
-/
def Before (left right : Place) : Prop :=
  left.1 < right.1 ∨ left.1 = right.1 ∧ left.2 < right.2

/-- The comparison with which places are sorted. -/
def atMost (left right : Place) : Bool :=
  if left.1 = right.1 then
    Text.atMost left.2 right.2
  else
    decide (left.1 < right.1)

/-- A place may stand before another exactly when the other does not come before it. -/
theorem atMost_iff
    {left right : Place} :
    atMost left right = true ↔ ¬ Before right left := by
  unfold atMost Before
  split
  case isTrue same =>
    rw [Text.atMost_iff]
    simp [same]
  case isFalse different =>
    simp only [decide_eq_true_eq]
    omega

namespace Before

theorem irrefl
    (place : Place) :
    ¬ Before place place := by
  rintro (deeper | ⟨_, less⟩)
  · exact Nat.lt_irrefl place.1 deeper
  · exact String.lt_irrefl place.2 less

theorem trans
    {first second third : Place}
    (left : Before first second)
    (right : Before second third) :
    Before first third := by
  rcases left with deeper | ⟨sameDepth, less⟩
  · rcases right with evenDeeper | ⟨sameDepth, _⟩
    · exact Or.inl (Nat.lt_trans deeper evenDeeper)
    · exact Or.inl (sameDepth ▸ deeper)
  · rcases right with deeper | ⟨sameDepthAgain, lessAgain⟩
    · exact Or.inl (sameDepth ▸ deeper)
    · exact Or.inr
        ⟨sameDepth.trans sameDepthAgain, String.lt_trans less lessAgain⟩

theorem asymm
    {left right : Place}
    (before : Before left right) :
    ¬ Before right left :=
  fun after => irrefl left (before.trans after)

theorem of_ne
    {left right : Place}
    (different : left ≠ right) :
    Before left right ∨ Before right left := by
  rcases Nat.lt_trichotomy left.1 right.1 with deeper | sameDepth | deeper
  · exact Or.inl (Or.inl deeper)
  · have differentIds : left.2 ≠ right.2 :=
      fun sameId => different (Prod.ext sameDepth sameId)
    rcases Text.lt_or_lt_of_ne differentIds with less | less
    · exact Or.inl (Or.inr ⟨sameDepth, less⟩)
    · exact Or.inr (Or.inr ⟨sameDepth.symm, less⟩)
  · exact Or.inr (Or.inl deeper)

end Before

theorem atMost_trans
    (first second third : Place)
    (left : atMost first second = true)
    (right : atMost second third = true) :
    atMost first third = true := by
  rw [atMost_iff] at left right ⊢
  intro thirdFirst
  by_cases same : first = second
  · exact right (same ▸ thirdFirst)
  · have firstSecond := (Before.of_ne same).resolve_right left
    exact right (thirdFirst.trans firstSecond)

theorem atMost_total
    (left right : Place) :
    (atMost left right || atMost right left) = true := by
  rw [Bool.or_eq_true, atMost_iff, atMost_iff]
  by_cases before : Before left right
  · exact Or.inl before.asymm
  · exact Or.inr before

/-- Sorting items with different places puts each before all that follow it. -/
theorem pairwise_before_mergeSort
    (place : α → Place)
    {items : List α}
    (distinct : (items.map place).Nodup) :
    (items.mergeSort fun left right =>
      atMost (place left) (place right)).Pairwise
        fun left right => Before (place left) (place right) := by
  have sorted :
      (items.mergeSort fun left right =>
        atMost (place left) (place right)).Pairwise
          fun left right => atMost (place left) (place right) = true :=
    List.pairwise_mergeSort
      (fun first second third =>
        atMost_trans (place first) (place second) (place third))
      (fun left right => atMost_total (place left) (place right))
      items
  have different :
      (items.mergeSort fun left right =>
        atMost (place left) (place right)).Pairwise
          fun left right => place left ≠ place right := by
    have permuted :=
      (List.mergeSort_perm items fun left right =>
        atMost (place left) (place right)).map place
    exact List.pairwise_map.mp (permuted.nodup_iff.mpr distinct)
  refine (sorted.and different).imp ?_
  intro left right both
  exact (Before.of_ne both.2).resolve_right (atMost_iff.mp both.1)

/-- Items in order of their places are determined by which items there are. -/
theorem eq_of_mem_iff_of_before
    (place : α → Place)
    {items others : List α}
    (ordered :
      items.Pairwise fun left right => Before (place left) (place right))
    (othersOrdered :
      others.Pairwise fun left right => Before (place left) (place right))
    (same : ∀ item, item ∈ items ↔ item ∈ others) :
    items = others := by
  have nodup :
      ∀ list : List α,
        list.Pairwise
            (fun left right => Before (place left) (place right)) →
          list.Nodup := by
    intro list before
    refine before.imp ?_
    rintro left right before rfl
    exact Before.irrefl (place left) before
  have permuted : items.Perm others :=
    (List.perm_ext_iff_of_nodup (nodup items ordered)
      (nodup others othersOrdered)).mpr same
  refine List.Perm.eq_of_pairwise ?_ ordered othersOrdered permuted
  intro left right _ _ before after
  exact (before.asymm after).elim

end Place

end FleetConfig
