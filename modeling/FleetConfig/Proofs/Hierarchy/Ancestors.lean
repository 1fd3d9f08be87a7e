import FleetConfig.Proofs.Hierarchy.Reparenting

/-!
# The ancestors of a group

Following parents from a group of an accepted hierarchy ends at a root, although
nothing remembers the groups that were passed.  The reason is the depth, which drops by
one with every parent link: it is the number of groups that are passed, and no group is
passed twice.
-/

namespace FleetConfig

namespace Parents

variable {parents : Parents} {id : String} {depth : Nat}

namespace Ascends

variable {current? : Option String} {path : List String}

/-- The first group on a way up is the one that it starts from. -/
theorem head?_eq
    (ascends : parents.Ascends current? path) :
    path.head? = current? := by
  cases ascends with
  | top =>
      rfl
  | step above =>
      rfl

/-- Each group on a way up names the next one as its parent. -/
theorem isChain
    (ascends : parents.Ascends current? path) :
    path.IsChain parents.Links := by
  induction ascends with
  | top =>
      exact .nil
  | @step id path above inductionHypothesis =>
      rw [List.isChain_cons_iff]
      cases path with
      | nil =>
          exact .inl rfl
      | cons next rest =>
          have up : parents.parent? id = some next := above.head?_eq.symm
          exact .inr ⟨next, rest, links_of_parent? up, inductionHypothesis, rfl⟩

end Ascends

namespace HasDepth

/-- With enough steps the ancestors of a group are all that following parents passes. -/
theorem ascends_ancestorsWithin
    (distinct : (parents.map Prod.fst).Nodup)
    {fuel : Nat}
    (stands : parents.HasDepth id depth)
    (enough : depth ≤ fuel) :
    parents.Ascends (parents.parent? id) (parents.ancestorsWithin fuel id) := by
  induction stands generalizing fuel with
  | root listed =>
      have noParent := parent?_eq_of_mem distinct listed
      cases fuel with
      | zero =>
          rw [noParent]
          exact .top
      | succ fuel =>
          simp only [ancestorsWithin, noParent]
          exact .top
  | child listed above inductionHypothesis =>
      have itsParent := parent?_eq_of_mem distinct listed
      cases fuel with
      | zero =>
          contradiction
      | succ fuel =>
          simp only [ancestorsWithin, itsParent]
          exact .step (inductionHypothesis (Nat.le_of_succ_le_succ enough))

theorem ascends_ancestors
    (distinct : (parents.map Prod.fst).Nodup)
    (stands : parents.HasDepth id depth) :
    parents.Ascends (parents.parent? id) (parents.ancestors id) :=
  stands.ascends_ancestorsWithin distinct
    (Nat.le_of_lt (stands.lt_length distinct))

/-- A way up from a group that has a depth ends at a root. -/
theorem getLast?_isRoot
    (distinct : (parents.map Prod.fst).Nodup)
    {path : List String}
    (stands : parents.HasDepth id depth)
    (ascends : parents.Ascends (some id) path) :
    ∀ last ∈ path.getLast?, (last, none) ∈ parents := by
  induction stands generalizing path with
  | root listed =>
      cases ascends with
      | step above =>
          rw [parent?_eq_of_mem distinct listed] at above
          cases above
          intro last member
          cases member
          exact listed
  | child listed standsAbove inductionHypothesis =>
      cases ascends with
      | step above =>
          rw [parent?_eq_of_mem distinct listed] at above
          intro last member
          refine inductionHypothesis above last ?_
          cases above with
          | step further =>
              simpa using member

end HasDepth

end Parents

namespace Hierarchy

/-- A group stands deeper in a hierarchy than another one. -/
def Deeper
    (hierarchy : Hierarchy)
    (lower upper : String) :
    Prop :=
  ∃ depth height,
    hierarchy.depth? lower = some depth ∧
      hierarchy.depth? upper = some height ∧
      height < depth

/--
Following parents from a group leads up the hierarchy: it ends after as many groups as
the depth says, at a root, and the depth falls from each group to the next.
-/
structure LeadsUp
    (hierarchy : Hierarchy)
    (id : String)
    (depth : Nat)
    (above : List String) :
    Prop where
  ends : hierarchy.parents.Ascends (hierarchy.parents.parent? id) above
  length : above.length = depth
  linked : (id :: above).IsChain hierarchy.parents.Links
  root :
    ∀ last ∈ (id :: above).getLast?,
      (last, none) ∈ hierarchy.parents ∧ hierarchy.depth? last = some 0
  falling : (id :: above).Pairwise hierarchy.Deeper
  once : (id :: above).Nodup

theorem Deeper.trans
    {hierarchy : Hierarchy}
    {lower middle upper : String}
    (first : hierarchy.Deeper lower middle)
    (second : hierarchy.Deeper middle upper) :
    hierarchy.Deeper lower upper := by
  obtain ⟨depth, between, isDepth, isBetween, falls⟩ := first
  obtain ⟨again, height, isAgain, isHeight, fallsAgain⟩ := second
  rw [isBetween] at isAgain
  cases isAgain
  exact ⟨depth, height, isDepth, isHeight, Nat.lt_trans fallsAgain falls⟩

end Hierarchy

namespace GroupSet

variable {groupSet : GroupSet}

/-- In a sound hierarchy a group stands deeper than the parent it names. -/
theorem deeper_of_links
    (sound : groupSet.parents.Sound)
    {child parent : String}
    (links : groupSet.parents.Links child parent) :
    groupSet.hierarchy.Deeper child parent := by
  obtain ⟨depth, stands⟩ := sound.grounded child (List.mem_map_of_mem links)
  obtain ⟨height, falls, standsAbove⟩ :=
    stands.ancestor_lt sound.distinct (.single links)
  exact ⟨depth, height, (depth?_eq_some_iff sound).mpr stands,
    (depth?_eq_some_iff sound).mpr standsAbove, falls⟩

theorem leadsUp_ancestors
    (sound : groupSet.parents.Sound)
    {id : String}
    {depth : Nat}
    (stands : groupSet.parents.HasDepth id depth) :
    groupSet.hierarchy.LeadsUp id depth (groupSet.hierarchy.ancestors id) := by
  have ends := stands.ascends_ancestors sound.distinct
  have way :
      groupSet.parents.Ascends (some id)
        (id :: groupSet.parents.ancestors id) :=
    .step ends
  have transitive : IsTrans String groupSet.hierarchy.Deeper :=
    ⟨fun _ _ _ => Hierarchy.Deeper.trans⟩
  have isRoot := stands.getLast?_isRoot sound.distinct way
  exact
    { ends
      length := stands.length_ancestors sound.distinct
      linked := way.isChain
      root := fun last member =>
        ⟨isRoot last member,
          (depth?_eq_some_iff sound).mpr (.root (isRoot last member))⟩
      falling :=
        List.isChain_iff_pairwise.mp
          (way.isChain.imp fun _ _ => deeper_of_links sound)
      once := way.nodup }

/--
In an accepted hierarchy every group has a depth, and its ancestors are that many
groups: following parents ends, at a root, and passes them in order and once each.
-/
theorem validate_ancestors_leadUp
    {limits : CapacityLimits}
    {hierarchy : Hierarchy}
    (accepted : groupSet.validate limits = .ok hierarchy)
    {id : String}
    (listed : id ∈ hierarchy.order) :
    ∃ depth,
      hierarchy.depth? id = some depth ∧
        hierarchy.LeadsUp id depth (hierarchy.ancestors id) := by
  have sound := sound_of_validate accepted
  obtain rfl := hierarchy_of_validate accepted
  obtain ⟨group, member, rfl⟩ :=
    List.mem_map.mp ((order_perm sound).mem_iff.mp listed)
  obtain ⟨depth, isDepth, stands⟩ := exists_depth sound member
  exact ⟨depth, isDepth, leadsUp_ancestors sound stands⟩

end GroupSet

/-- The lowest group of the chain has the two groups above it as its ancestors. -/
theorem GroupSet.validate_ancestors_leadUp_sample :
    Sample.chain.validate ⟨none, none⟩ = .ok Sample.chain.hierarchy ∧
      "low" ∈ Sample.chain.hierarchy.order ∧
      Sample.chain.hierarchy.ancestors "low" = ["middle", "top"] ∧
      ∃ depth,
        Sample.chain.hierarchy.depth? "low" = some depth ∧
          Sample.chain.hierarchy.LeadsUp "low" depth
            (Sample.chain.hierarchy.ancestors "low") := by
  have accepted :
      Sample.chain.validate ⟨none, none⟩ = .ok Sample.chain.hierarchy := by
    cbv
  have order : Sample.chain.hierarchy.order = ["top", "middle", "low"] := by
    cbv
  have listed : "low" ∈ Sample.chain.hierarchy.order := by
    simp [order]
  exact ⟨accepted, listed, by decide, validate_ancestors_leadUp accepted listed⟩

end FleetConfig
