import FleetConfig.Text.Sorted

/-!
# The order of texts

What sorting gives depends only on which texts there are, never on the order in
which they were given: two strictly ascending lists with the same members are
equal.
-/

namespace FleetConfig.Text

/-- Every text comes before all texts that follow it. -/
abbrev StrictlyAscending (texts : List String) : Prop :=
  texts.Pairwise (· < ·)

theorem atMost_iff
    {left right : String} :
    atMost left right = true ↔ ¬ right < left := by
  simp [atMost]

theorem lt_or_lt_of_ne
    {left right : String}
    (different : left ≠ right) :
    left < right ∨ right < left := by
  by_cases less : left < right
  · exact Or.inl less
  · by_cases more : right < left
    · exact Or.inr more
    · have same : left = right :=
        String.le_antisymm (String.not_lt.mp more) (String.not_lt.mp less)
      exact absurd same different

theorem atMost_trans
    (first second third : String)
    (left : atMost first second = true)
    (right : atMost second third = true) :
    atMost first third = true := by
  rw [atMost_iff] at left right ⊢
  exact String.not_lt.mpr
    (String.le_trans (String.not_lt.mp left) (String.not_lt.mp right))

theorem atMost_total
    (left right : String) :
    (atMost left right || atMost right left) = true := by
  rw [Bool.or_eq_true, atMost_iff, atMost_iff,
    String.not_lt, String.not_lt]
  exact String.le_total left right

theorem ascending_perm
    (texts : List String) :
    (ascending texts).Perm texts :=
  List.mergeSort_perm texts atMost

theorem ascending_pairwise
    (texts : List String) :
    (ascending texts).Pairwise fun left right => ¬ right < left := by
  have sorted :=
    List.pairwise_mergeSort atMost_trans atMost_total texts
  exact sorted.imp fun holds => atMost_iff.mp holds

/-- Sorting forgets the order in which the texts were given. -/
theorem ascending_eq_of_perm
    {texts others : List String}
    (permuted : texts.Perm others) :
    ascending texts = ascending others := by
  have sortsPermuted : (ascending texts).Perm (ascending others) :=
    (ascending_perm texts).trans
      (permuted.trans (ascending_perm others).symm)
  refine List.Perm.eq_of_pairwise ?_
    (ascending_pairwise texts) (ascending_pairwise others) sortsPermuted
  intro left right _ _ notMore notLess
  exact String.le_antisymm
    (String.not_lt.mp notMore) (String.not_lt.mp notLess)

theorem mem_dropRepeats
    {text : String}
    {texts : List String} :
    text ∈ dropRepeats texts ↔ text ∈ texts := by
  fun_induction dropRepeats texts with
  | case1 =>
      simp
  | case2 =>
      simp
  | case3 first rest inductionHypothesis =>
      simp [inductionHypothesis]
  | case4 first second rest different inductionHypothesis =>
      simp [inductionHypothesis]

/-- Without repetitions a sorted list ascends strictly. -/
theorem dropRepeats_strictlyAscending
    {texts : List String}
    (sorted : texts.Pairwise fun left right => ¬ right < left) :
    StrictlyAscending (dropRepeats texts) := by
  fun_induction dropRepeats texts with
  | case1 =>
      exact .nil
  | case2 =>
      exact List.pairwise_singleton _ _
  | case3 first rest inductionHypothesis =>
      exact inductionHypothesis sorted.of_cons
  | case4 first second rest different inductionHypothesis =>
      refine List.pairwise_cons.mpr
        ⟨?_, inductionHypothesis sorted.of_cons⟩
      intro text member
      have firstBelow : first < second :=
        (lt_or_lt_of_ne different).resolve_right
          (List.rel_of_pairwise_cons sorted (by simp))
      rcases List.mem_cons.mp (mem_dropRepeats.mp member) with
          isSecond | inRest
      · rw [isSecond]
        exact firstBelow
      · have secondAtMost : ¬ text < second :=
          List.rel_of_pairwise_cons sorted.of_cons inRest
        exact Std.lt_of_lt_of_le firstBelow (String.not_lt.mp secondAtMost)

/-- The different texts come in strictly ascending order. -/
theorem distinctAscending_strictlyAscending
    (texts : List String) :
    StrictlyAscending (distinctAscending texts) :=
  dropRepeats_strictlyAscending (ascending_pairwise texts)

@[simp] theorem mem_distinctAscending
    {text : String}
    {texts : List String} :
    text ∈ distinctAscending texts ↔ text ∈ texts := by
  rw [distinctAscending, mem_dropRepeats]
  exact (ascending_perm texts).mem_iff

theorem StrictlyAscending.nodup
    {texts : List String}
    (ascends : StrictlyAscending texts) :
    texts.Nodup := by
  refine ascends.imp ?_
  intro left right less same
  rw [same] at less
  exact String.lt_irrefl right less

/-- Sorting leaves strictly ascending texts as they are. -/
theorem StrictlyAscending.ascending_eq
    {texts : List String}
    (ascends : StrictlyAscending texts) :
    ascending texts = texts :=
  List.mergeSort_of_pairwise
    (ascends.imp fun less => atMost_iff.mpr (String.lt_asymm less))

/-- Strictly ascending lists with the same members are equal. -/
theorem StrictlyAscending.eq_of_mem_iff
    {texts others : List String}
    (ascends : StrictlyAscending texts)
    (othersAscend : StrictlyAscending others)
    (same : ∀ text, text ∈ texts ↔ text ∈ others) :
    texts = others := by
  have permuted : texts.Perm others :=
    (List.perm_ext_iff_of_nodup ascends.nodup othersAscend.nodup).mpr same
  refine List.Perm.eq_of_pairwise ?_ ascends othersAscend permuted
  intro left right _ _ less more
  exact (String.lt_asymm less more).elim

/-- Which texts there are decides the different texts in ascending order. -/
theorem distinctAscending_congr
    {texts others : List String}
    (same : ∀ text, text ∈ texts ↔ text ∈ others) :
    distinctAscending texts = distinctAscending others := by
  apply StrictlyAscending.eq_of_mem_iff
    (distinctAscending_strictlyAscending texts)
    (distinctAscending_strictlyAscending others)
  intro text
  rw [mem_distinctAscending, mem_distinctAscending]
  exact same text

end FleetConfig.Text
