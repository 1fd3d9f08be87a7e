import FleetConfig.Proofs.Hierarchy.Validation

/-!
# Giving a group another parent

A climb from the proposed parent tells whether a group would become its own
ancestor.  The climb ends in every group set, however defective: with every step
there are fewer groups that it has not seen.  On an accepted group set it says
what validating the edited group set says.
-/

namespace FleetConfig

namespace Parents

/--
Following parents goes through these groups and ends, at a root or where a group
is not there.
-/
inductive Ascends (parents : Parents) :
    Option String → List String → Prop where
  | top :
      Ascends parents none []
  | step
      {id : String}
      {path : List String}
      (above : Ascends parents (parents.parent? id) path) :
      Ascends parents (some id) (id :: path)

/--
A climb on the lookout for a group ends: it meets that group, it comes back to a
group that it has seen, or it neither does.
-/
inductive Climbs (parents : Parents) (target : String) :
    List String → Option String → Bool → Prop where
  | top (seen : List String) :
      Climbs parents target seen none false
  | meets (seen : List String) :
      Climbs parents target seen (some target) true
  | returns
      {seen : List String}
      {id : String}
      (other : id ≠ target)
      (before : id ∈ seen) :
      Climbs parents target seen (some id) true
  | step
      {seen : List String}
      {id : String}
      {answer : Bool}
      (other : id ≠ target)
      (fresh : id ∉ seen)
      (above :
        Climbs parents target (id :: seen) (parents.parent? id) answer) :
      Climbs parents target seen (some id) answer

variable {parents : Parents}

namespace Ascends

/-- There is one way up. -/
theorem unique
    {current? : Option String}
    {path other : List String}
    (ascends : parents.Ascends current? path)
    (ascendsAgain : parents.Ascends current? other) :
    path = other := by
  induction ascends generalizing other with
  | top =>
      cases ascendsAgain
      rfl
  | step above inductionHypothesis =>
      cases ascendsAgain with
      | step aboveAgain =>
          rw [inductionHypothesis aboveAgain]

/-- The rest of the way up from a group is the way up from that group. -/
theorem of_append
    {current? : Option String}
    {before after : List String}
    {id : String}
    (ascends : parents.Ascends current? (before ++ id :: after)) :
    parents.Ascends (some id) (id :: after) := by
  induction before generalizing current? with
  | nil =>
      cases ascends with
      | step above =>
          exact .step above
  | cons first rest inductionHypothesis =>
      cases ascends with
      | step above =>
          exact inductionHypothesis above

/-- A way up that ends goes through no group twice. -/
theorem nodup
    {current? : Option String}
    {path : List String}
    (ascends : parents.Ascends current? path) :
    path.Nodup := by
  induction ascends with
  | top =>
      exact .nil
  | @step id path above inductionHypothesis =>
      refine List.nodup_cons.mpr ⟨?_, inductionHypothesis⟩
      intro again
      obtain ⟨before, after, rfl⟩ := List.append_of_mem again
      -- From its second place on the same way up would be shorter.
      have same := above.of_append.unique (.step above)
      have sameLength := congrArg List.length same
      simp only [List.length_cons, List.length_append] at sameLength
      omega

end Ascends

namespace Climbs

variable {target : String} {seen : List String} {current? : Option String}

/-- A climb has one answer. -/
theorem unique
    {answer other : Bool}
    (climbs : parents.Climbs target seen current? answer)
    (climbsAgain : parents.Climbs target seen current? other) :
    answer = other := by
  induction climbs with
  | top seen =>
      cases climbsAgain
      rfl
  | meets seen =>
      cases climbsAgain with
      | meets =>
          rfl
      | returns different _ =>
          contradiction
      | step different _ _ =>
          contradiction
  | returns different before =>
      cases climbsAgain with
      | meets =>
          rfl
      | returns _ _ =>
          rfl
      | step _ fresh _ =>
          contradiction
  | step different fresh above inductionHypothesis =>
      cases climbsAgain with
      | meets =>
          contradiction
      | returns _ before =>
          contradiction
      | step _ _ aboveAgain =>
          exact inductionHypothesis aboveAgain

/-- A climb finds nothing when following parents ends away from the target and from all seen. -/
theorem false_iff :
    parents.Climbs target seen current? false ↔
      ∃ path,
        parents.Ascends current? path ∧
          target ∉ path ∧
          ∀ id ∈ path, id ∉ seen := by
  constructor
  · intro climbs
    generalize answered : false = answer at climbs
    induction climbs with
    | top seen =>
        exact ⟨[], .top, by simp, by simp⟩
    | meets seen =>
        contradiction
    | returns other before =>
        contradiction
    | @step seen id answer other fresh above inductionHypothesis =>
        obtain ⟨path, ascends, notOnPath, apart⟩ :=
          inductionHypothesis answered
        refine ⟨id :: path, .step ascends, ?_, ?_⟩
        · simp [other.symm, notOnPath]
        · intro member listed
          rcases List.mem_cons.mp listed with isFirst | further
          · exact isFirst ▸ fresh
          · exact fun before =>
              apart member further (List.mem_cons_of_mem id before)
  · rintro ⟨path, ascends, notOnPath, apart⟩
    induction ascends generalizing seen with
    | top =>
        exact .top seen
    | @step id path above inductionHypothesis =>
        rw [List.mem_cons, not_or] at notOnPath
        have once := (List.nodup_cons.mp (Ascends.step above).nodup).1
        refine .step (Ne.symm notOnPath.1)
          (apart id List.mem_cons_self)
          (inductionHypothesis notOnPath.2 ?_)
        intro member further
        rw [List.mem_cons, not_or]
        exact ⟨fun same => once (same ▸ further),
          apart member (List.mem_cons_of_mem id further)⟩

end Climbs

/-- Above a group from which every way up ends at a root the parents can be followed to the end. -/
theorem Grounded.exists_ascends
    (distinct : (parents.map Prod.fst).Nodup)
    {id : String}
    (grounded : parents.Grounded id) :
    ∃ path, parents.Ascends (some id) path := by
  obtain ⟨depth, stands⟩ := grounded
  induction stands with
  | @root id listed =>
      refine ⟨[id], .step ?_⟩
      rw [parent?_eq_of_mem distinct listed]
      exact .top
  | @child id parent depth listed above inductionHypothesis =>
      obtain ⟨path, ascends⟩ := inductionHypothesis
      refine ⟨id :: path, .step ?_⟩
      rw [parent?_eq_of_mem distinct listed]
      exact ascends

end Parents

namespace GroupSet

theorem parent?_parents
    (groupSet : GroupSet)
    (id : String) :
    groupSet.parents.parent? id =
      (groupSet.find? id).bind (·.parent?) := by
  unfold parents Parents.parent? GroupSet.find?
  induction groupSet.groups with
  | nil =>
      rfl
  | cons group rest inductionHypothesis =>
      by_cases same : group.id = id
      · simp [same]
      · have different : id ≠ group.id := Ne.symm same
        simpa [List.lookup_cons, same, different,
          beq_eq_false_iff_ne.mpr different] using inductionHypothesis

/-- Without a group to go on from a climb is over. -/
@[simp] theorem climbReaches_none
    (groupSet : GroupSet)
    (target : String)
    (fuel : Nat)
    (seen : List String) :
    groupSet.climbReaches target fuel seen none = false := by
  cases fuel <;> rfl

/-- With enough steps the climb that is computed is such a climb. -/
theorem climbs_climbReaches
    (groupSet : GroupSet)
    (target : String)
    {fuel : Nat}
    {seen : List String}
    (current? : Option String)
    (enough : groupSet.parents.unseen seen < fuel) :
    groupSet.parents.Climbs target seen current?
      (groupSet.climbReaches target fuel seen current?) := by
  induction fuel generalizing seen current? with
  | zero =>
      contradiction
  | succ fuel inductionHypothesis =>
      cases current? with
      | none =>
          exact .top seen
      | some current =>
          rw [climbReaches, ← parent?_parents]
          by_cases isTarget : current = target
          · simpa [isTarget] using Parents.Climbs.meets seen
          · by_cases before : current ∈ seen
            · simpa [before] using Parents.Climbs.returns isTarget before
            · simp only [beq_eq_false_iff_ne.mpr isTarget,
                List.contains_eq_mem, before, decide_false, Bool.false_or]
              refine .step isTarget before ?_
              cases up : groupSet.parents.parent? current with
              | none =>
                  -- A group that is not there ends the climb like a root.
                  rw [climbReaches_none]
                  exact .top _
              | some parent =>
                  have known : current ∈ groupSet.parents.map Prod.fst :=
                    List.mem_map_of_mem (Parents.links_of_parent? up)
                  have fewer := Parents.unseen_cons_lt known before
                  exact inductionHypothesis (some parent) (by omega)

/-- The climb from a proposed parent ends with the answer that is given. -/
theorem climbs_wouldCreateCycle
    (groupSet : GroupSet)
    (id : String)
    (newParent? : Option String) :
    groupSet.parents.Climbs id [] newParent?
      (groupSet.wouldCreateCycle id newParent?) := by
  have bound := groupSet.parents.unseen_le_length []
  have sameLength : groupSet.parents.length = groupSet.groups.length := by
    simp [parents]
  exact climbs_climbReaches groupSet id newParent? (by omega)

/-- The answer is no exactly when following parents ends without meeting the group. -/
theorem wouldCreateCycle_eq_false_iff
    {groupSet : GroupSet}
    {id : String}
    {newParent? : Option String} :
    groupSet.wouldCreateCycle id newParent? = false ↔
      ∃ path,
        groupSet.parents.Ascends newParent? path ∧
          id ∉ path ∧
          path.Nodup := by
  have climbs := climbs_wouldCreateCycle groupSet id newParent?
  constructor
  · intro no
    rw [no] at climbs
    obtain ⟨path, ascends, notOnPath, _⟩ := Parents.Climbs.false_iff.mp climbs
    exact ⟨path, ascends, notOnPath, ascends.nodup⟩
  · rintro ⟨path, ascends, notOnPath, _⟩
    have climbsToEnd : groupSet.parents.Climbs id [] newParent? false :=
      Parents.Climbs.false_iff.mpr ⟨path, ascends, notOnPath, by simp⟩
    exact climbs.unique climbsToEnd

/-- Where all groups differ and know their parents, cycles are found if a group is above itself. -/
theorem exists_validate_eq_cycles_iff
    {groupSet : GroupSet}
    (distinct : groupSet.ids.Nodup)
    (known : groupSet.KnowsParents) :
    (∃ paths,
        groupSet.validate ⟨none, none⟩ = .error (.defect (.cycles paths))) ↔
      ∃ other, groupSet.parents.HasAncestor other other := by
  have lists := listsCycles_parents distinct known
  have unlimited : groupSet.FitsIn ⟨none, none⟩ := ⟨by simp, by simp⟩
  simp only [validate_eq_cycles_iff distinct known, unlimited, true_and]
  rw [← not_iff_not, not_exists, not_exists, ← lists.eq_nil_iff]
  simp

/-- A group set in which the group with an identifier names another parent, or none. -/
def reparented
    (groupSet : GroupSet)
    (id : String)
    (newParent? : Option String)
    (version : String) :
    GroupSet :=
  ⟨groupSet.groups.map fun group =>
      if group.id = id then { group with parent? := newParent? } else group,
    version⟩

section Reparented

variable {groupSet : GroupSet}
  {id : String}
  {newParent? : Option String}
  {version : String}

theorem ids_reparented :
    (groupSet.reparented id newParent? version).ids = groupSet.ids := by
  unfold ids reparented
  rw [List.map_map]
  apply List.map_congr_left
  intro group _
  dsimp only [Function.comp_apply]
  split <;> rfl

/-- Only the group itself names another parent. -/
theorem mem_parents_reparented_of_ne
    {other : String}
    {parent? : Option String}
    (different : other ≠ id) :
    (other, parent?) ∈
        (groupSet.reparented id newParent? version).parents ↔
      (other, parent?) ∈ groupSet.parents := by
  unfold parents reparented
  rw [List.map_map, List.mem_map, List.mem_map]
  refine exists_congr fun group => and_congr_right fun _ => ?_
  dsimp only [Function.comp_apply]
  split
  case isTrue same =>
    simp [same, different.symm]
  case isFalse =>
    rfl

theorem mem_parents_reparented_self
    (known : id ∈ groupSet.ids) :
    (id, newParent?) ∈
      (groupSet.reparented id newParent? version).parents := by
  obtain ⟨group, member, rfl⟩ := List.mem_map.mp known
  have edited :
      { group with parent? := newParent? } ∈
        (groupSet.reparented group.id newParent? version).groups :=
    List.mem_map.mpr ⟨group, member, if_pos rfl⟩
  exact mem_parents edited

theorem knowsParents_reparented
    (known : groupSet.KnowsParents)
    (newKnown : ∀ parent ∈ newParent?, parent ∈ groupSet.ids) :
    (groupSet.reparented id newParent? version).KnowsParents := by
  intro group member parent named
  rw [ids_reparented]
  obtain ⟨original, listed, rfl⟩ := List.mem_map.mp member
  split at named
  case isTrue =>
    exact newKnown parent named
  case isFalse =>
    exact known original listed parent named

/-- A way up that does not meet the edited group is still there and ends at a root. -/
theorem placesChild_reparented_of_ascends
    (sound : groupSet.parents.Sound)
    {current? : Option String}
    (currentKnown : ∀ current ∈ current?, current ∈ groupSet.ids)
    {path : List String}
    (ascends : groupSet.parents.Ascends current? path)
    (notOnPath : id ∉ path) :
    ∃ depth,
      (groupSet.reparented id newParent? version).parents.PlacesChild
        current? depth := by
  induction ascends with
  | top =>
      exact ⟨0, rfl⟩
  | @step current path above inductionHypothesis =>
      rw [List.mem_cons, not_or] at notOnPath
      have listed :
          (current, groupSet.parents.parent? current) ∈ groupSet.parents := by
        apply Parents.mem_of_parent?
        rw [map_fst_parents]
        exact currentKnown current rfl
      have parentKnown :
          ∀ parent ∈ groupSet.parents.parent? current,
            parent ∈ groupSet.ids := by
        intro parent named
        rw [Option.mem_def.mp named] at listed
        have closed := sound.closed current parent listed
        rwa [map_fst_parents] at closed
      obtain ⟨depth, places⟩ :=
        inductionHypothesis parentKnown notOnPath.2
      have stillListed :
          (current, groupSet.parents.parent? current) ∈
            (groupSet.reparented id newParent? version).parents :=
        (mem_parents_reparented_of_ne (Ne.symm notOnPath.1)).mpr listed
      exact ⟨depth + 1, depth,
        .of_placesChild stillListed places, rfl⟩

/-- If the edited group stands below a root, so do all groups. -/
theorem grounded_reparented
    (selfGrounded :
      (groupSet.reparented id newParent? version).parents.Grounded id)
    {other : String}
    (grounded : groupSet.parents.Grounded other) :
    (groupSet.reparented id newParent? version).parents.Grounded other := by
  obtain ⟨depth, stands⟩ := grounded
  induction stands with
  | @root current listed =>
      by_cases same : current = id
      · exact same ▸ selfGrounded
      · exact ⟨0, .root ((mem_parents_reparented_of_ne same).mpr listed)⟩
  | @child current parent depth listed above inductionHypothesis =>
      by_cases same : current = id
      · exact same ▸ selfGrounded
      · exact .of_parent ((mem_parents_reparented_of_ne same).mpr listed)
          inductionHypothesis

/-- From below the edited group the way up leads to it, also after the edit. -/
theorem hasAncestor_reparented_of_mem
    {current : String}
    {path : List String}
    (ascends : groupSet.parents.Ascends (some current) path)
    (onPath : id ∈ path) :
    current = id ∨
      (groupSet.reparented id newParent? version).parents.HasAncestor
        current id := by
  induction path generalizing current with
  | nil =>
      contradiction
  | cons first rest inductionHypothesis =>
      cases ascends with
      | step above =>
          by_cases same : first = id
          · exact Or.inl same
          · have further : id ∈ rest :=
              (List.mem_cons.mp onPath).resolve_left (Ne.symm same)
            cases up : groupSet.parents.parent? first with
            | none =>
                rw [up] at above
                cases above
                contradiction
            | some parent =>
                rw [up] at above
                have links :
                    (groupSet.reparented id newParent?
                      version).parents.Links first parent :=
                  (mem_parents_reparented_of_ne same).mpr
                    (Parents.links_of_parent? up)
                right
                rcases inductionHypothesis above further with isId | higher
                · subst isId
                  exact .single links
                · exact .head links higher

/--
In a sound hierarchy the climb says whether the edited group would be its own
ancestor or any other group would be.
-/
theorem wouldCreateCycle_iff_hasAncestor
    (sound : groupSet.parents.Sound)
    (known : id ∈ groupSet.ids)
    (newKnown : ∀ parent ∈ newParent?, parent ∈ groupSet.ids) :
    groupSet.wouldCreateCycle id newParent? = true ↔
      ∃ other,
        (groupSet.reparented id newParent? version).parents.HasAncestor
          other other := by
  have selfListed :
      (id, newParent?) ∈
        (groupSet.reparented id newParent? version).parents :=
    mem_parents_reparented_self known
  constructor
  · intro yes
    refine ⟨id, ?_⟩
    cases newParent? with
    | none =>
        exact absurd yes (by simp [wouldCreateCycle, climbReaches])
    | some parent =>
        have parentKnown : parent ∈ groupSet.parents.map Prod.fst := by
          rw [map_fst_parents]
          exact newKnown parent rfl
        obtain ⟨path, ascends⟩ :=
          (sound.grounded parent parentKnown).exists_ascends sound.distinct
        have onPath : id ∈ path := by
          by_contra notOnPath
          have no := wouldCreateCycle_eq_false_iff.mpr
            ⟨path, ascends, notOnPath, ascends.nodup⟩
          rw [yes] at no
          contradiction
        rcases hasAncestor_reparented_of_mem ascends onPath with
            isId | higher
        · subst isId
          exact .single selfListed
        · exact .head selfListed higher
  · rintro ⟨other, above⟩
    by_contra notYes
    obtain ⟨path, ascends, notOnPath, _⟩ :=
      wouldCreateCycle_eq_false_iff.mp (Bool.not_eq_true _ ▸ notYes)
    have placed :
        ∃ depth,
          (groupSet.reparented id newParent? version).parents.PlacesChild
            newParent? depth :=
      placesChild_reparented_of_ascends sound newKnown ascends notOnPath
    obtain ⟨depth, places⟩ := placed
    have selfGrounded :
        (groupSet.reparented id newParent? version).parents.Grounded id :=
      ⟨depth, .of_placesChild selfListed places⟩
    have otherKnown : other ∈ groupSet.parents.map Prod.fst := by
      have listed := above.mem
      rw [map_fst_parents] at listed ⊢
      change other ∈ (groupSet.reparented id newParent? version).ids at listed
      rw [ids_reparented] at listed
      exact listed
    have distinct :
        ((groupSet.reparented id newParent? version).parents.map
          Prod.fst).Nodup := by
      rw [nodup_parents_iff, ids_reparented, ← nodup_parents_iff]
      exact sound.distinct
    exact (grounded_reparented selfGrounded
      (sound.grounded other otherKnown)).not_hasAncestor_self distinct above

end Reparented

/--
The climb that asks whether a group would become its own ancestor under a new
parent ends, and with one answer: no exactly when following parents ends without
meeting the group or any group twice.  On an accepted group set the answer is
yes exactly when validation would find cycles in the edited group set.
-/
theorem wouldCreateCycle_decides
    (groupSet : GroupSet)
    (id : String)
    (newParent? : Option String) :
    (∀ answer,
        groupSet.parents.Climbs id [] newParent? answer ↔
          groupSet.wouldCreateCycle id newParent? = answer) ∧
      (groupSet.wouldCreateCycle id newParent? = false ↔
        ∃ path,
          groupSet.parents.Ascends newParent? path ∧
            id ∉ path ∧
            path.Nodup) ∧
      ∀ hierarchy version,
        groupSet.validate ⟨none, none⟩ = .ok hierarchy →
        id ∈ groupSet.ids →
        (∀ parent ∈ newParent?, parent ∈ groupSet.ids) →
          (groupSet.wouldCreateCycle id newParent? = true ↔
            ∃ paths,
              (groupSet.reparented id newParent? version).validate
                  ⟨none, none⟩ =
                .error (.defect (.cycles paths))) := by
  refine ⟨?_, wouldCreateCycle_eq_false_iff, ?_⟩
  · intro answer
    have climbs := climbs_wouldCreateCycle groupSet id newParent?
    exact ⟨climbs.unique, fun given => given ▸ climbs⟩
  · intro hierarchy version accepted known newKnown
    obtain ⟨_, distinct, parentsKnown, _⟩ :=
      exists_validate_eq_ok_iff.mp ⟨hierarchy, accepted⟩
    have editedDistinct :
        (groupSet.reparented id newParent? version).ids.Nodup := by
      rw [ids_reparented]
      exact distinct
    have cyclesIff :=
      exists_validate_eq_cycles_iff editedDistinct
        (knowsParents_reparented parentsKnown newKnown)
    rw [cyclesIff]
    exact wouldCreateCycle_iff_hasAncestor (sound_of_validate accepted) known
      newKnown

end GroupSet

namespace Sample

/-- Three groups one below the other. -/
def chain : GroupSet :=
  ⟨[childOf "middle" "low", childOf "top" "middle", Group.empty "top"], "v1"⟩

end Sample

/-- Under the lowest group of the chain the top would become its own ancestor. -/
theorem GroupSet.wouldCreateCycle_decides_sample :
    Sample.chain.validate ⟨none, none⟩ = .ok Sample.chain.hierarchy ∧
      "top" ∈ Sample.chain.ids ∧
      (∀ parent ∈ some "low", parent ∈ Sample.chain.ids) ∧
      Sample.chain.wouldCreateCycle "top" (some "low") = true ∧
      ∃ paths,
        (Sample.chain.reparented "top" (some "low") "v2").validate
            ⟨none, none⟩ =
          .error (.defect (.cycles paths)) := by
  have accepted :
      Sample.chain.validate ⟨none, none⟩ = .ok Sample.chain.hierarchy := by
    cbv
  have known : "top" ∈ Sample.chain.ids := by
    decide
  have newKnown : ∀ parent ∈ some "low", parent ∈ Sample.chain.ids := by
    decide
  have yes : Sample.chain.wouldCreateCycle "top" (some "low") = true := by
    decide
  exact ⟨accepted, known, newKnown, yes,
    ((wouldCreateCycle_decides Sample.chain "top" (some "low")).2.2
      _ "v2" accepted known newKnown).mp yes⟩

end FleetConfig
