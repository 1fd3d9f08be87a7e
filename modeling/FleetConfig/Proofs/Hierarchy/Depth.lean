import FleetConfig.Proofs.Hierarchy.Walk
import FleetConfig.Proofs.Text.Order

/-!
# Depths of groups

A group without a parent is a root and stands at depth 0; every other group
stands one deeper than its parent.  Groups on a cycle, or below one, have no
depth at all.  In a sound hierarchy every group has one depth, which is also the
number of its ancestors.
-/

namespace FleetConfig.Parents

/-- A group stands so many parent links below a root. -/
inductive HasDepth (parents : Parents) : String → Nat → Prop where
  | root
      {id : String}
      (listed : (id, none) ∈ parents) :
      HasDepth parents id 0
  | child
      {id parent : String}
      {depth : Nat}
      (listed : (id, some parent) ∈ parents)
      (above : HasDepth parents parent depth) :
      HasDepth parents id (depth + 1)

/-- Every way up from the group ends at a root. -/
def Grounded
    (parents : Parents)
    (id : String) :
    Prop :=
  ∃ depth, parents.HasDepth id depth

/-- All identifiers differ and every way up ends at a root. -/
structure Sound (parents : Parents) : Prop where
  distinct : (parents.map Prod.fst).Nodup
  grounded : ∀ id ∈ parents.map Prod.fst, parents.Grounded id

variable {parents : Parents}

namespace HasDepth

theorem mem
    {id : String}
    {depth : Nat}
    (stands : parents.HasDepth id depth) :
    id ∈ parents.map Prod.fst := by
  cases stands with
  | root listed =>
      exact List.mem_map_of_mem listed
  | child listed above =>
      exact List.mem_map_of_mem listed

/-- A group has only one depth. -/
theorem unique
    (distinct : (parents.map Prod.fst).Nodup)
    {id : String}
    {depth other : Nat}
    (stands : parents.HasDepth id depth)
    (standsAgain : parents.HasDepth id other) :
    depth = other := by
  induction stands generalizing other with
  | root listed =>
      have noParent := parent?_eq_of_mem distinct listed
      cases standsAgain with
      | root _ =>
          rfl
      | child listedAgain _ =>
          have someParent := parent?_eq_of_mem distinct listedAgain
          rw [noParent] at someParent
          contradiction
  | child listed above inductionHypothesis =>
      have someParent := parent?_eq_of_mem distinct listed
      cases standsAgain with
      | root listedAgain =>
          have noParent := parent?_eq_of_mem distinct listedAgain
          rw [someParent] at noParent
          contradiction
      | child listedAgain aboveAgain =>
          have sameParent := parent?_eq_of_mem distinct listedAgain
          rw [someParent] at sameParent
          cases sameParent
          rw [inductionHypothesis aboveAgain]

/--
The groups on the way up are different listed groups, none of them deeper than
the first.
-/
private theorem exists_way_up
    (distinct : (parents.map Prod.fst).Nodup)
    {id : String}
    {depth : Nat}
    (stands : parents.HasDepth id depth) :
    ∃ way : List String,
      way.length = depth + 1 ∧
        way.Nodup ∧
        ∀ group ∈ way,
          ∃ height ≤ depth, parents.HasDepth group height := by
  induction stands with
  | @root id listed =>
      refine ⟨[id], rfl, by simp, ?_⟩
      intro group member
      rw [List.mem_singleton.mp member]
      exact ⟨0, Nat.le_refl 0, .root listed⟩
  | @child id parent depth listed above inductionHypothesis =>
      obtain ⟨way, length, different, heights⟩ := inductionHypothesis
      have stands : parents.HasDepth id (depth + 1) := .child listed above
      refine ⟨id :: way, by rw [List.length_cons, length], ?_, ?_⟩
      · refine List.nodup_cons.mpr ⟨?_, different⟩
        intro member
        obtain ⟨height, bound, standsAgain⟩ := heights id member
        have same := unique distinct stands standsAgain
        omega
      · intro group member
        rcases List.mem_cons.mp member with isFirst | inWay
        · rw [isFirst]
          exact ⟨depth + 1, Nat.le_refl _, stands⟩
        · obtain ⟨height, bound, standsThere⟩ := heights group inWay
          exact ⟨height, Nat.le_succ_of_le bound, standsThere⟩

/-- No group is deeper than there are other groups. -/
theorem lt_length
    (distinct : (parents.map Prod.fst).Nodup)
    {id : String}
    {depth : Nat}
    (stands : parents.HasDepth id depth) :
    depth < parents.length := by
  obtain ⟨way, length, different, heights⟩ :=
    stands.exists_way_up distinct
  have listed : way ⊆ parents.map Prod.fst := by
    intro group member
    obtain ⟨height, _, standsThere⟩ := heights group member
    exact standsThere.mem
  have bound := different.length_le_of_subset listed
  rw [List.length_map, length] at bound
  exact bound

/-- With enough steps the way up has as many groups as the depth says. -/
theorem length_ancestorsWithin
    (distinct : (parents.map Prod.fst).Nodup)
    {id : String}
    {depth fuel : Nat}
    (stands : parents.HasDepth id depth)
    (enough : depth ≤ fuel) :
    (parents.ancestorsWithin fuel id).length = depth := by
  induction stands generalizing fuel with
  | root listed =>
      cases fuel with
      | zero =>
          rfl
      | succ fuel =>
          simp [ancestorsWithin, parent?_eq_of_mem distinct listed]
  | child listed above inductionHypothesis =>
      cases fuel with
      | zero =>
          contradiction
      | succ fuel =>
          have rest := inductionHypothesis (Nat.le_of_succ_le_succ enough)
          simp [ancestorsWithin, parent?_eq_of_mem distinct listed, rest]

/-- The depth of a group is the number of its ancestors. -/
theorem length_ancestors
    (distinct : (parents.map Prod.fst).Nodup)
    {id : String}
    {depth : Nat}
    (stands : parents.HasDepth id depth) :
    (parents.ancestors id).length = depth :=
  stands.length_ancestorsWithin distinct
    (Nat.le_of_lt (stands.lt_length distinct))

end HasDepth

theorem Grounded.of_parent
    {id parent : String}
    (listed : (id, some parent) ∈ parents)
    (grounded : parents.Grounded parent) :
    parents.Grounded id := by
  obtain ⟨depth, stands⟩ := grounded
  exact ⟨depth + 1, .child listed stands⟩

/-- A group that names this parent, or none, stands at the depth. -/
def PlacesChild (parents : Parents) : Option String → Nat → Prop
  | none, depth =>
      depth = 0
  | some parent, depth =>
      ∃ above, parents.HasDepth parent above ∧ depth = above + 1

theorem HasDepth.of_placesChild
    {id : String}
    {parent? : Option String}
    {depth : Nat}
    (listed : (id, parent?) ∈ parents)
    (places : parents.PlacesChild parent? depth) :
    parents.HasDepth id depth := by
  cases parent? with
  | none =>
      cases places
      exact .root listed
  | some parent =>
      obtain ⟨above, stands, rfl⟩ := places
      exact .child listed stands

/-- A group that has a depth stands deeper than its ancestors. -/
theorem HasDepth.ancestor_lt
    (distinct : (parents.map Prod.fst).Nodup)
    {id ancestor : String}
    {depth : Nat}
    (stands : parents.HasDepth id depth)
    (above : parents.HasAncestor id ancestor) :
    ∃ height < depth, parents.HasDepth ancestor height := by
  have parentDepth :
      ∀ {child parent : String} {depth : Nat},
        parents.Links child parent →
        parents.HasDepth child depth →
        ∃ height < depth, parents.HasDepth parent height := by
    intro child parent depth links stands
    cases stands with
    | root listed =>
        cases eq_of_listed distinct links listed
    | child listed standsAbove =>
        rw [links.unique distinct listed]
        exact ⟨_, Nat.lt_succ_self _, standsAbove⟩
  induction above with
  | single links =>
      exact parentDepth links stands
  | tail _ links inductionHypothesis =>
      obtain ⟨height, less, standsThere⟩ := inductionHypothesis
      obtain ⟨higher, evenLess, standsAbove⟩ := parentDepth links standsThere
      exact ⟨higher, Nat.lt_trans evenLess less, standsAbove⟩

/-- A group from which every way up ends at a root is not its own ancestor. -/
theorem Grounded.not_hasAncestor_self
    (distinct : (parents.map Prod.fst).Nodup)
    {id : String}
    (grounded : parents.Grounded id) :
    ¬ parents.HasAncestor id id := by
  intro above
  obtain ⟨depth, stands⟩ := grounded
  obtain ⟨height, less, standsAgain⟩ := stands.ancestor_lt distinct above
  have same := stands.unique distinct standsAgain
  omega

namespace Walked

variable {seen path : List String} {current? stop? : Option String}

/--
If a walk ends at a root or stops at a grounded group, all groups on it are
grounded.
-/
theorem grounded
    (walked : parents.Walked seen current? path stop?)
    (stopGrounded : ∀ stop ∈ stop?, parents.Grounded stop) :
    (∀ current ∈ current?, parents.Grounded current) ∧
      ∀ id ∈ path, parents.Grounded id := by
  induction walked with
  | top seen =>
      simp
  | met before =>
      exact ⟨stopGrounded, by simp⟩
  | @step seen path id parent? stop? fresh listed above inductionHypothesis =>
      obtain ⟨parentGrounded, further⟩ := inductionHypothesis stopGrounded
      have here : parents.Grounded id := by
        cases parent? with
        | none =>
            exact ⟨0, .root listed⟩
        | some parent =>
            exact .of_parent listed (parentGrounded parent rfl)
      refine ⟨by simpa using here, ?_⟩
      intro other member
      rcases List.mem_cons.mp member with isFirst | onWalk
      · rw [isFirst]
        exact here
      · exact further other onWalk

/-- Numbering the groups of a walk from the top down gives their depths. -/
theorem hasDepth_of_mem_zipIdx
    (walked : parents.Walked seen current? path stop?)
    {top : Nat}
    (places : parents.PlacesChild stop? top) :
    parents.PlacesChild current? (top + path.length) ∧
      ∀ entry ∈ path.reverse.zipIdx top,
        parents.HasDepth entry.1 entry.2 := by
  induction walked with
  | top seen =>
      exact ⟨places, by simp⟩
  | met before =>
      exact ⟨places, by simp⟩
  | @step seen path id parent? stop? fresh listed above inductionHypothesis =>
      obtain ⟨placesHere, further⟩ := inductionHypothesis places
      have stands : parents.HasDepth id (top + path.length) :=
        .of_placesChild listed placesHere
      refine ⟨⟨_, stands, by simp [Nat.add_assoc]⟩, ?_⟩
      intro entry member
      rw [List.reverse_cons, List.zipIdx_append, List.mem_append] at member
      rcases member with onWalk | isFirst
      · exact further entry onWalk
      · simp only [List.length_reverse, List.zipIdx_singleton,
          List.mem_singleton] at isFirst
        rw [isFirst]
        exact stands

end Walked

/--
Where every parent is listed and no group is its own ancestor, every way up ends
at a root.
-/
theorem Closed.grounded
    (closed : parents.Closed)
    (acyclic : ∀ id, ¬ parents.HasAncestor id id)
    {id : String}
    (known : id ∈ parents.map Prod.fst) :
    parents.Grounded id := by
  have walked := walked_walk_length closed [] known
  have endsAtRoot :
      ∀ stop ∈ (parents.walk (parents.length + 1) [] (some id)).2,
        parents.Grounded stop := by
    intro stop stops
    have onWalk :=
      (walked.stop_mem stop stops).resolve_right List.not_mem_nil
    rw [Option.mem_def.mp stops] at walked
    exact absurd (walked.hasAncestor_stop onWalk) (acyclic stop)
  exact (walked.grounded endsAtRoot).1 id rfl

/-- Different groups, each with its depth. -/
structure Charts
    (parents : Parents)
    (known : List (String × Nat)) :
    Prop where
  distinct : (known.map Prod.fst).Nodup
  stands : ∀ entry ∈ known, parents.HasDepth entry.1 entry.2

namespace Sound

theorem closed
    (sound : parents.Sound) :
    parents.Closed := by
  intro id parent listed
  obtain ⟨depth, stands⟩ := sound.grounded id (List.mem_map_of_mem listed)
  obtain ⟨height, _, standsAbove⟩ :=
    stands.ancestor_lt sound.distinct (.single listed)
  exact standsAbove.mem

/-- No group is its own ancestor. -/
theorem ne_of_hasAncestor
    (sound : parents.Sound)
    {id ancestor : String}
    (above : parents.HasAncestor id ancestor) :
    id ≠ ancestor := by
  rintro rfl
  exact (sound.grounded id above.mem).not_hasAncestor_self sound.distinct above

/-- A walk that stops where depths are known gives the depths of its groups. -/
theorem charts_append_walk
    (sound : parents.Sound)
    {known : List (String × Nat)}
    (charts : parents.Charts known)
    {start : String}
    {path : List String}
    {stop? : Option String}
    (walked : parents.Walked (known.map Prod.fst) (some start) path stop?) :
    parents.Charts
      (known ++ path.reverse.zipIdx (depthBelow known stop?)) := by
  have places : parents.PlacesChild stop? (depthBelow known stop?) := by
    cases stop? with
    | none =>
        rfl
    | some stop =>
        -- A walk in a sound hierarchy does not come back to its own groups.
        have notOnWalk : stop ∉ path := by
          intro onWalk
          have round := walked.hasAncestor_stop onWalk
          exact (sound.grounded stop round.mem).not_hasAncestor_self
            sound.distinct round
        have before := (walked.stop_mem stop rfl).resolve_left notOnWalk
        obtain ⟨depth, found⟩ := Option.isSome_iff_exists.mp
          (Entries.lookup_isSome_iff.mpr before)
        refine ⟨depth, charts.stands _ (Entries.mem_of_lookup found), ?_⟩
        rw [depthBelow, found]
        rfl
  refine ⟨?_, ?_⟩
  · rw [List.map_append, List.zipIdx_map_fst]
    refine List.nodup_append.mpr
      ⟨charts.distinct, path.reverse_perm.nodup_iff.mpr walked.nodup, ?_⟩
    rintro id before other onWalk rfl
    exact walked.fresh id (List.mem_reverse.mp onWalk) before
  · intro entry member
    rcases List.mem_append.mp member with before | onWalk
    · exact charts.stands entry before
    · exact (walked.hasDepth_of_mem_zipIdx places).2 entry onWalk

/-- Adding depths keeps those that are known and reaches all groups asked for. -/
theorem charts_depthsFrom
    (sound : parents.Sound)
    {known : List (String × Nat)}
    (charts : parents.Charts known)
    {starts : List String}
    (listed : starts ⊆ parents.map Prod.fst) :
    parents.Charts (parents.depthsFrom known starts) ∧
      ∀ id, id ∈ known.map Prod.fst ∨ id ∈ starts →
        id ∈ (parents.depthsFrom known starts).map Prod.fst := by
  -- The table only grows, so a group that was reached once stays reached.
  induction starts generalizing known with
  | nil =>
      exact ⟨charts, by simp [depthsFrom]⟩
  | cons start rest inductionHypothesis =>
      have walked :=
        walked_walk_length sound.closed (known.map Prod.fst)
          (listed List.mem_cons_self)
      have chartsNow := sound.charts_append_walk charts walked
      have restListed : rest ⊆ parents.map Prod.fst :=
        fun id member => listed (List.mem_cons_of_mem start member)
      obtain ⟨chartsAll, reached⟩ := inductionHypothesis chartsNow restListed
      refine ⟨chartsAll, ?_⟩
      intro id asked
      refine reached id ?_
      rw [List.map_append, List.zipIdx_map_fst, List.mem_append,
        List.mem_reverse]
      rcases asked with before | member
      · exact Or.inl (Or.inl before)
      · rcases List.mem_cons.mp member with isStart | inRest
        · rw [isStart]
          exact Or.inl (List.mem_append.mp walked.start_mem).symm
        · exact Or.inr inRest

/-- The depths found are those of different groups, and of all groups. -/
theorem charts_depths
    (sound : parents.Sound) :
    parents.Charts parents.depths ∧
      ∀ id ∈ parents.map Prod.fst, id ∈ parents.depths.map Prod.fst := by
  have nothingKnown : parents.Charts [] :=
    ⟨.nil, by simp⟩
  obtain ⟨charts, reached⟩ :=
    sound.charts_depthsFrom nothingKnown
      (List.Subset.refl (parents.map Prod.fst))
  exact ⟨charts, fun id listed => reached id (Or.inr listed)⟩

/-- In a sound hierarchy the depths found are exactly those of the groups. -/
theorem mem_depths
    (sound : parents.Sound)
    {id : String}
    {depth : Nat} :
    (id, depth) ∈ parents.depths ↔ parents.HasDepth id depth := by
  obtain ⟨charts, reached⟩ := sound.charts_depths
  constructor
  · intro member
    exact charts.stands _ member
  · intro stands
    obtain ⟨⟨_, other⟩, member, rfl⟩ :=
      List.mem_map.mp (reached id stands.mem)
    rw [stands.unique sound.distinct (charts.stands _ member)]
    exact member

/-- In a sound hierarchy depths are found for every group once. -/
theorem map_fst_depths_perm
    (sound : parents.Sound) :
    (parents.depths.map Prod.fst).Perm (parents.map Prod.fst) := by
  obtain ⟨charts, reached⟩ := sound.charts_depths
  refine (List.perm_ext_iff_of_nodup charts.distinct sound.distinct).mpr ?_
  intro id
  constructor
  · intro member
    obtain ⟨entry, listed, rfl⟩ := List.mem_map.mp member
    exact (charts.stands entry listed).mem
  · exact reached id

end Sound

end FleetConfig.Parents
