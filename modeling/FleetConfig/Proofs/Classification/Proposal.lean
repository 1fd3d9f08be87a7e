import FleetConfig.Proofs.Hierarchy.Place

/-!
# Proposals for one key

Proposals come in order of the places of the groups that make them.  The value
decided on is that of the foremost proposal: no other lies deeper, and none
equally deep comes from a lesser identifier.  A depth gives rise to a conflict
exactly when two proposals made there differ.
-/

namespace FleetConfig

theorem eraseDups_sublist
    [BEq α]
    (items : List α) :
    items.eraseDups.Sublist items := by
  match items with
  | [] =>
      simp
  | first :: rest =>
      rw [List.eraseDups_cons]
      have restSublist :=
        eraseDups_sublist (rest.filter fun other => !other == first)
      exact (restSublist.trans List.filter_sublist).cons_cons first
termination_by items.length
decreasing_by
  have bound := List.length_filter_le (fun other => !other == first) rest
  simp only [List.length_cons]
  omega

theorem nodup_eraseDups
    [BEq α]
    [LawfulBEq α]
    (items : List α) :
    items.eraseDups.Nodup := by
  match items with
  | [] =>
      simp
  | first :: rest =>
      rw [List.eraseDups_cons]
      refine List.nodup_cons.mpr ⟨?_, nodup_eraseDups _⟩
      intro member
      have kept := List.mem_filter.mp (List.mem_eraseDups.mp member)
      simp at kept
termination_by items.length
decreasing_by
  have bound := List.length_filter_le (fun other => !other == first) rest
  simp only [List.length_cons]
  omega

namespace Proposal

/-- The place of the group that makes a proposal. -/
def place (proposal : Proposal) : Place :=
  (proposal.depth, proposal.group)

/-- Proposals come in order of their places. -/
abbrev InOrder (proposals : List Proposal) : Prop :=
  proposals.Pairwise fun left right => Place.Before left.place right.place

/--
Of all proposals this one is deepest and, among the deepest, has the least
identifier.
-/
structure Foremost
    (proposals : List Proposal)
    (proposal : Proposal) :
    Prop where
  member : proposal ∈ proposals
  outranks :
    ∀ other ∈ proposals,
      other = proposal ∨
        other.depth < proposal.depth ∨
        other.depth = proposal.depth ∧ proposal.group < other.group

theorem Foremost.unique
    {proposals : List Proposal}
    {proposal other : Proposal}
    (foremost : Foremost proposals proposal)
    (otherForemost : Foremost proposals other) :
    proposal = other := by
  rcases foremost.outranks other otherForemost.member with
      same | otherHigher | ⟨sameDepth, less⟩
  · exact same.symm
  · rcases otherForemost.outranks proposal foremost.member with
        same | higher | ⟨sameDepth, _⟩
    · exact same
    · omega
    · omega
  · rcases otherForemost.outranks proposal foremost.member with
        same | higher | ⟨_, more⟩
    · exact same
    · omega
    · exact (String.lt_asymm less more).elim

theorem mem_atDepth
    {proposals : List Proposal}
    {depth : Nat}
    {proposal : Proposal} :
    proposal ∈ atDepth depth proposals ↔
      proposal ∈ proposals ∧ proposal.depth = depth := by
  simp [atDepth]

theorem mem_depths
    {proposals : List Proposal}
    {depth : Nat} :
    depth ∈ depths proposals ↔
      ∃ proposal ∈ proposals, proposal.depth = depth := by
  rw [depths, List.mem_eraseDups, List.mem_map]

theorem depths_pairwise
    {proposals : List Proposal}
    (inOrder : InOrder proposals) :
    (depths proposals).Pairwise (· < ·) := by
  have ascending :
      (proposals.map (·.depth)).Pairwise (· ≤ ·) := by
    rw [List.pairwise_map]
    refine inOrder.imp ?_
    intro left right before
    rcases before with deeper | ⟨sameDepth, _⟩
    · exact Nat.le_of_lt deeper
    · exact Nat.le_of_eq sameDepth
  have depthsAscend :=
    ascending.sublist (eraseDups_sublist (proposals.map (·.depth)))
  refine (depthsAscend.and (nodup_eraseDups _)).imp ?_
  intro left right both
  exact Nat.lt_of_le_of_ne both.1 both.2

/-- The first proposal at a depth has the least identifier there. -/
theorem head_atDepth_least
    {proposals : List Proposal}
    (inOrder : InOrder proposals)
    {depth : Nat}
    {first : Proposal}
    (isFirst : (atDepth depth proposals).head? = some first)
    {other : Proposal}
    (member : other ∈ atDepth depth proposals) :
    other = first ∨ first.group < other.group := by
  obtain ⟨rest, shape⟩ := List.head?_eq_some_iff.mp isFirst
  have orderedHere : InOrder (atDepth depth proposals) :=
    inOrder.sublist List.filter_sublist
  have firstDepth : first.depth = depth :=
    (mem_atDepth.mp (List.mem_of_mem_head? isFirst)).2
  have otherDepth : other.depth = depth := (mem_atDepth.mp member).2
  rw [shape] at orderedHere member
  rcases List.mem_cons.mp member with isFirst | inRest
  · exact Or.inl isFirst
  · rcases List.rel_of_pairwise_cons orderedHere inRest with
        deeper | ⟨_, less⟩
    · have deeper : first.depth < other.depth := deeper
      omega
    · exact Or.inr less

/-- Some proposal is made at the last of the depths, and none any deeper. -/
theorem last_depths_greatest
    {proposals : List Proposal}
    (inOrder : InOrder proposals)
    {depth : Nat}
    (isLast : (depths proposals).getLast? = some depth) :
    (∃ proposal ∈ proposals, proposal.depth = depth) ∧
      ∀ other ∈ proposals, other.depth ≤ depth := by
  obtain ⟨shallower, shape⟩ := List.getLast?_eq_some_iff.mp isLast
  have depthListed : depth ∈ depths proposals := by
    rw [shape]
    simp
  refine ⟨mem_depths.mp depthListed, ?_⟩
  intro other member
  have ascend := depths_pairwise inOrder
  have listed := mem_depths.mpr ⟨other, member, rfl⟩
  rw [shape] at ascend listed
  rcases List.mem_append.mp listed with before | last
  · have apart := (List.pairwise_append.mp ascend).2.2
    exact Nat.le_of_lt (apart other.depth before depth (by simp))
  · exact Nat.le_of_eq (List.mem_singleton.mp last)

/-- Where there are proposals, one is foremost and its value is decided on. -/
theorem exists_foremost
    {proposals : List Proposal}
    (inOrder : InOrder proposals)
    (notEmpty : proposals ≠ []) :
    ∃ proposal,
      Foremost proposals proposal ∧
        decided? proposals = some proposal.value := by
  have depthsExist : depths proposals ≠ [] := by
    obtain ⟨proposal, member⟩ := List.exists_mem_of_ne_nil proposals notEmpty
    exact List.ne_nil_of_mem (mem_depths.mpr ⟨proposal, member, rfl⟩)
  have deepest := List.getLast?_eq_some_getLast depthsExist
  generalize (depths proposals).getLast depthsExist = depth at deepest
  obtain ⟨⟨witness, witnessMember, witnessDepth⟩, bound⟩ :=
    last_depths_greatest inOrder deepest
  have someHere : atDepth depth proposals ≠ [] :=
    List.ne_nil_of_mem (mem_atDepth.mpr ⟨witnessMember, witnessDepth⟩)
  obtain ⟨first, rest, shapeHere⟩ := List.exists_cons_of_ne_nil someHere
  have isFirst : (atDepth depth proposals).head? = some first := by
    rw [shapeHere]
    rfl
  have firstHere := mem_atDepth.mp (List.mem_of_mem_head? isFirst)
  refine ⟨first, ⟨firstHere.1, ?_⟩, ?_⟩
  · -- Beside it only a lesser identifier could win; elsewhere all is less deep.
    intro other member
    by_cases sameDepth : other.depth = depth
    · have here := mem_atDepth.mpr ⟨member, sameDepth⟩
      rcases head_atDepth_least inOrder isFirst here with same | less
      · exact Or.inl same
      · exact Or.inr (Or.inr ⟨sameDepth.trans firstHere.2.symm, less⟩)
    · have atMost := bound other member
      exact Or.inr (Or.inl (by omega))
  · simp [decided?, deepest, isFirst]

/-- The value decided on is that of the foremost proposal. -/
theorem decided?_eq_some_iff
    {proposals : List Proposal}
    (inOrder : InOrder proposals)
    {value : Value} :
    decided? proposals = some value ↔
      ∃ proposal,
        Foremost proposals proposal ∧ proposal.value = value := by
  constructor
  · intro decided
    have notEmpty : proposals ≠ [] := by
      rintro rfl
      simp [decided?, depths] at decided
    obtain ⟨proposal, foremost, itsValue⟩ :=
      exists_foremost inOrder notEmpty
    rw [itsValue] at decided
    exact ⟨proposal, foremost, Option.some.inj decided⟩
  · rintro ⟨proposal, foremost, rfl⟩
    obtain ⟨other, otherForemost, itsValue⟩ :=
      exists_foremost inOrder (List.ne_nil_of_mem foremost.member)
    rw [foremost.unique otherForemost]
    exact itsValue

/-- Nothing is decided on exactly when nothing is proposed. -/
theorem decided?_eq_none_iff
    {proposals : List Proposal}
    (inOrder : InOrder proposals) :
    decided? proposals = none ↔ proposals = [] := by
  constructor
  · intro undecided
    by_cases empty : proposals = []
    · exact empty
    · obtain ⟨proposal, _, itsValue⟩ := exists_foremost inOrder empty
      rw [itsValue] at undecided
      contradiction
  · rintro rfl
    rfl

/-- Proposals disagree when two of them have different canonical texts. -/
theorem disagree_iff
    {proposals : List Proposal} :
    disagree proposals = true ↔
      ∃ left ∈ proposals, ∃ right ∈ proposals,
        left.value.canonicalJson ≠ right.value.canonicalJson := by
  cases proposals with
  | nil =>
      simp [disagree]
  | cons first rest =>
      simp only [disagree, List.any_eq_true, bne_iff_ne]
      constructor
      · rintro ⟨other, member, different⟩
        exact ⟨other, List.mem_cons_of_mem first member,
          first, List.mem_cons_self, different⟩
      · rintro ⟨left, leftMember, right, rightMember, different⟩
        -- One of the two differs from the first proposal.
        by_cases likeFirst :
            left.value.canonicalJson = first.value.canonicalJson
        · have rightDiffers :
              right.value.canonicalJson ≠ first.value.canonicalJson :=
            fun same => different (likeFirst.trans same.symm)
          rcases List.mem_cons.mp rightMember with isFirst | inRest
          · exact absurd (congrArg (·.value.canonicalJson) isFirst)
              rightDiffers
          · exact ⟨right, inRest, rightDiffers⟩
        · rcases List.mem_cons.mp leftMember with isFirst | inRest
          · exact absurd (congrArg (·.value.canonicalJson) isFirst)
              likeFirst
          · exact ⟨left, inRest, likeFirst⟩

end Proposal

end FleetConfig
