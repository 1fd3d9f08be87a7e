import FleetConfig.Proofs.Hierarchy.Depth
import Mathlib.Data.List.Cycle

/-!
# Cycles of the hierarchy

Groups may be linked in a circle, so that each is its own ancestor.  The search
for cycles reports every such circle once, as a closed path, whatever tails lead
into it and however many circles there are, and reports nothing else.  It finds
nothing exactly when every way up ends at a root.
-/

namespace FleetConfig.Parents

variable {parents : Parents}

/-- A circle of different groups, each naming the next as its parent, wherever it starts. -/
structure IsCycle
    (parents : Parents)
    (cycle : Cycle String) :
    Prop where
  notEmpty : cycle ≠ Cycle.nil
  simple : cycle.Nodup
  links : cycle.Chain parents.Links

/--
A path from a group up to itself: each group is followed by its parent, the last
is the first, and no other group occurs twice.
-/
structure ClosedPath
    (parents : Parents)
    (path : List String) :
    Prop where
  closes : ∃ first between, path = first :: between ++ [first]
  simple : path.dropLast.Nodup
  links : path.IsChain parents.Links

/-- The circle that a closed path goes round. -/
def circle (path : List String) : Cycle String :=
  path.dropLast

/-- Paths go round every circle of groups, each once, and round nothing else. -/
structure ListsCycles
    (parents : Parents)
    (paths : List (List String)) :
    Prop where
  closed : ∀ path ∈ paths, parents.ClosedPath path
  exact : ∀ cycle, cycle ∈ paths.map circle ↔ parents.IsCycle cycle
  once : (paths.map circle).Nodup
  members :
    ∀ id, (∃ path ∈ paths, id ∈ path) ↔ parents.HasAncestor id id

namespace ClosedPath

variable {path : List String}

theorem mem_circle
    (closed : parents.ClosedPath path)
    {id : String} :
    id ∈ circle path ↔ id ∈ path := by
  obtain ⟨first, between, rfl⟩ := closed.closes
  unfold circle
  rw [List.dropLast_concat, Cycle.mem_coe_iff, List.mem_append]
  constructor
  · exact Or.inl
  · rintro (member | isFirst)
    · exact member
    · exact List.mem_singleton.mp isFirst ▸ List.mem_cons_self

theorem isCycle
    (closed : parents.ClosedPath path) :
    parents.IsCycle (circle path) := by
  obtain ⟨first, between, rfl⟩ := closed.closes
  have simple := closed.simple
  unfold circle
  rw [List.dropLast_concat] at simple ⊢
  exact
    { notEmpty := by simp
      simple
      links := (Cycle.chain_coe_cons _ _ _).mpr closed.links }

end ClosedPath

namespace IsCycle

/-- Every group of a circle is its own ancestor. -/
theorem hasAncestor_self
    {cycle : Cycle String}
    (isCycle : parents.IsCycle cycle)
    {id : String}
    (member : id ∈ cycle) :
    parents.HasAncestor id id := by
  have above : cycle.Chain parents.HasAncestor :=
    isCycle.links.imp fun _ _ => Relation.TransGen.single
  exact Cycle.chain_iff_pairwise.mp above id member id member

theorem exists_mem
    {cycle : Cycle String}
    (isCycle : parents.IsCycle cycle) :
    ∃ id, id ∈ cycle := by
  obtain ⟨list, rfl⟩ := Quotient.exists_rep cycle
  have notEmpty : list ≠ [] := fun empty =>
    isCycle.notEmpty ((Cycle.coe_eq_nil list).mpr empty)
  obtain ⟨id, member⟩ := List.exists_mem_of_ne_nil list notEmpty
  exact ⟨id, Cycle.mem_coe_iff.mpr member⟩

/-- A circle can be read from any of its groups on. -/
private theorem exists_eq_cons
    {cycle : Cycle String}
    {id : String}
    (member : id ∈ cycle) :
    ∃ rest : List String, cycle = ↑(id :: rest) := by
  obtain ⟨list, rfl⟩ := Quotient.exists_rep cycle
  obtain ⟨before, after, shape⟩ :=
    List.append_of_mem (Cycle.mem_coe_iff.mp member)
  refine ⟨after ++ before, Cycle.coe_eq_coe.mpr ?_⟩
  rw [shape]
  exact List.isRotated_append

/-- From one group the links lead back to another in one way only. -/
private theorem eq_of_isChain
    (distinct : (parents.map Prod.fst).Nodup)
    {start last : String}
    {between others : List String}
    (links : (start :: (between ++ [last])).IsChain parents.Links)
    (otherLinks : (start :: (others ++ [last])).IsChain parents.Links)
    (notBetween : last ∉ between)
    (notOther : last ∉ others) :
    between = others := by
  induction between generalizing start others with
  | nil =>
      cases others with
      | nil =>
          rfl
      | cons other rest =>
          have same := (List.IsChain.rel links).unique distinct
            (List.IsChain.rel otherLinks)
          exact absurd (same ▸ List.mem_cons_self) notOther
  | cons first rest inductionHypothesis =>
      cases others with
      | nil =>
          have same := (List.IsChain.rel otherLinks).unique distinct
            (List.IsChain.rel links)
          exact absurd (same ▸ List.mem_cons_self) notBetween
      | cons other otherRest =>
          have same := (List.IsChain.rel links).unique distinct
            (List.IsChain.rel otherLinks)
          subst same
          have restSame := inductionHypothesis links.tail otherLinks.tail
            (fun member => notBetween (List.mem_cons_of_mem _ member))
            (fun member => notOther (List.mem_cons_of_mem _ member))
          rw [restSame]

/-- Circles that share a group are one circle. -/
theorem eq_of_mem
    (distinct : (parents.map Prod.fst).Nodup)
    {cycle other : Cycle String}
    (isCycle : parents.IsCycle cycle)
    (otherIsCycle : parents.IsCycle other)
    {id : String}
    (member : id ∈ cycle)
    (otherMember : id ∈ other) :
    cycle = other := by
  obtain ⟨rest, rfl⟩ := exists_eq_cons member
  obtain ⟨otherRest, rfl⟩ := exists_eq_cons otherMember
  have notInRest := (List.nodup_cons.mp isCycle.simple).1
  have notInOther := (List.nodup_cons.mp otherIsCycle.simple).1
  rw [eq_of_isChain distinct
    ((Cycle.chain_coe_cons _ _ _).mp isCycle.links)
    ((Cycle.chain_coe_cons _ _ _).mp otherIsCycle.links)
    notInRest notInOther]

end IsCycle

/-- What is reported of a walk starts where the walk stopped. -/
theorem cycle?_append
    {before after : List String}
    {stop : String}
    (notBefore : stop ∉ before) :
    cycle? (before ++ stop :: after) (some stop) =
      some (stop :: after ++ [stop]) := by
  have skipped : ∀ id ∈ before, (id != stop) = true := by
    intro id member
    exact bne_iff_ne.mpr fun same => notBefore (same ▸ member)
  have onWalk : (before ++ stop :: after).contains stop = true := by simp
  dsimp only [cycle?]
  rw [if_pos onWalk, List.dropWhile_append_of_pos skipped,
    List.dropWhile_cons_of_neg (by simp)]

namespace Walked

variable {seen path : List String} {current? stop? : Option String}

/-- A group on a walk stands there once. -/
private theorem once
    (walked : parents.Walked seen current? path stop?)
    {before after : List String}
    {id : String}
    (shape : path = before ++ id :: after) :
    id ∉ before ∧ id ∉ after := by
  have nodup := walked.nodup
  rw [shape] at nodup
  obtain ⟨_, fromHere, apart⟩ := List.nodup_append.mp nodup
  exact ⟨fun member => apart id member id List.mem_cons_self rfl,
    (List.nodup_cons.mp fromHere).1⟩

/-- A walk that comes back to its own groups is reported from there on. -/
theorem exists_of_cycle?_eq_some
    (walked : parents.Walked seen current? path stop?)
    {round : List String}
    (found : cycle? path stop? = some round) :
    ∃ stop before after,
      stop? = some stop ∧
        path = before ++ stop :: after ∧
        round = stop :: after ++ [stop] := by
  cases stop? with
  | none =>
      contradiction
  | some stop =>
      by_cases onWalk : stop ∈ path
      · obtain ⟨before, after, rfl⟩ := List.append_of_mem onWalk
        rw [cycle?_append (walked.once rfl).1] at found
        exact ⟨stop, before, after, rfl, rfl, (Option.some.inj found).symm⟩
      · dsimp only [cycle?] at found
        rw [if_neg (by simpa using onWalk)] at found
        contradiction

/-- What is reported of a walk is a closed path over groups of the walk. -/
theorem closedPath_of_cycle?_eq_some
    (walked : parents.Walked seen current? path stop?)
    {round : List String}
    (found : cycle? path stop? = some round) :
    parents.ClosedPath round ∧ ∀ id ∈ round, id ∈ path := by
  obtain ⟨stop, before, after, rfl, rfl, rfl⟩ :=
    walked.exists_of_cycle?_eq_some found
  have links := walked.isChain
  rw [List.append_assoc] at links
  refine ⟨⟨⟨stop, after, rfl⟩, ?_, links.right_of_append⟩, ?_⟩
  · rw [List.dropLast_concat]
    exact (List.nodup_append.mp walked.nodup).2.1
  · intro id member
    rcases List.mem_append.mp member with onRound | isStop
    · exact List.mem_append_right _ onRound
    · rw [List.mem_singleton.mp isStop]
      simp

/--
If a walk stops further on than some group or where it was seen before, the
parents from that group on are there too.
-/
theorem parent_mem_of_stop_mem
    (distinct : (parents.map Prod.fst).Nodup)
    (walked : parents.Walked seen current? path stop?)
    {before after : List String}
    {id : String}
    (shape : path = before ++ id :: after)
    (stops : ∀ stop ∈ stop?, stop ∈ after ++ seen)
    {child parent : String}
    (member : child ∈ id :: after)
    (links : parents.Links child parent) :
    parent ∈ after ++ seen := by
  obtain ⟨left, right, split⟩ := List.append_of_mem member
  have childShape : path = (before ++ left) ++ child :: right := by
    rw [shape, split, List.append_assoc]
  have further : right ⊆ after := by
    cases left with
    | nil =>
        exact (List.cons.inj split).2 ▸ List.Subset.refl _
    | cons first rest =>
        rw [(List.cons.inj split).2]
        exact fun other later => by simp [later]
  rcases List.mem_append.mp
      (walked.parent_mem distinct childShape links) with later | atStop
  · exact List.mem_append_left _ (further later)
  · exact stops parent (Option.mem_toList.mp atStop)

/--
A walk on which a group is its own ancestor stops, and neither further on nor
where it was seen before.
-/
theorem exists_stop_of_hasAncestor_self
    (distinct : (parents.map Prod.fst).Nodup)
    (walked : parents.Walked seen current? path stop?)
    (seenClosed : parents.ClosedUpward seen)
    {before after : List String}
    {id : String}
    (shape : path = before ++ id :: after)
    (above : parents.HasAncestor id id) :
    ∃ stop ∈ stop?, stop ∉ after ++ seen := by
  by_contra noStop
  have stops : ∀ stop ∈ stop?, stop ∈ after ++ seen := by
    intro stop isStop
    by_contra outside
    exact noStop ⟨stop, isStop, outside⟩
  have parentMember :
      ∀ {child parent : String},
        child ∈ id :: after → parents.Links child parent →
          parent ∈ after ++ seen :=
    walked.parent_mem_of_stop_mem distinct shape stops
  have aboveClosed : parents.ClosedUpward (after ++ seen) := by
    intro child member parent links
    rcases List.mem_append.mp member with further | already
    · exact parentMember (List.mem_cons_of_mem id further) links
    · exact List.mem_append_right _ (seenClosed child already parent links)
  -- So the group, being above itself, is further on or was seen before.
  have again : id ∈ after ++ seen :=
    aboveClosed.mem_of_hasAncestor
      (fun parent links => parentMember List.mem_cons_self links) above
  have onWalk : id ∈ path := by simp [shape]
  rcases List.mem_append.mp again with further | already
  · exact (walked.once shape).2 further
  · exact walked.fresh id onWalk already

/-- Groups on a walk that are their own ancestors are on what is reported of it. -/
theorem exists_cycle?_of_hasAncestor_self
    (distinct : (parents.map Prod.fst).Nodup)
    (walked : parents.Walked seen current? path stop?)
    (seenClosed : parents.ClosedUpward seen)
    {id : String}
    (onWalk : id ∈ path)
    (above : parents.HasAncestor id id) :
    ∃ round, cycle? path stop? = some round ∧ id ∈ round := by
  obtain ⟨_, _, idShape⟩ := List.append_of_mem onWalk
  obtain ⟨stop, stops, outside⟩ :=
    walked.exists_stop_of_hasAncestor_self distinct seenClosed idShape above
  rw [List.mem_append, not_or] at outside
  have stopOnWalk := (walked.stop_mem stop stops).resolve_right outside.2
  obtain ⟨before, after, shape⟩ := List.append_of_mem stopOnWalk
  have notBefore : stop ∉ before := (walked.once shape).1
  have idNotBefore : id ∉ before := by
    intro earlier
    obtain ⟨left, right, split⟩ := List.append_of_mem earlier
    have earlierShape : path = left ++ id :: (right ++ stop :: after) := by
      rw [shape, split]
      simp
    obtain ⟨other, stopsThere, outsideThere⟩ :=
      walked.exists_stop_of_hasAncestor_self distinct seenClosed
        earlierShape above
    have same : other = stop := Option.mem_unique stopsThere stops
    exact outsideThere (by simp [same])
  rw [Option.mem_def.mp stops, shape, cycle?_append notBefore]
  rw [shape, List.mem_append] at onWalk
  exact ⟨_, rfl, List.mem_append_left _ (onWalk.resolve_left idNotBefore)⟩

end Walked

/--
What is found outside the groups seen before: closed paths over new groups,
through every group that is its own ancestor, no two of them through one group.
-/
structure FoundOutside
    (parents : Parents)
    (seen : List String)
    (paths : List (List String)) :
    Prop where
  closed : ∀ path ∈ paths, parents.ClosedPath path
  fresh : ∀ path ∈ paths, ∀ id ∈ path, id ∉ seen
  covers :
    ∀ id, parents.HasAncestor id id → id ∉ seen → ∃ path ∈ paths, id ∈ path
  apart : paths.Pairwise List.Disjoint

/-- One more walk adds what is reported of it to what is found afterwards. -/
theorem FoundOutside.cons_walk
    (distinct : (parents.map Prod.fst).Nodup)
    {seen path : List String}
    {current? stop? : Option String}
    (walked : parents.Walked seen current? path stop?)
    (seenClosed : parents.ClosedUpward seen)
    {paths : List (List String)}
    (later : parents.FoundOutside (path ++ seen) paths) :
    parents.FoundOutside seen ((cycle? path stop?).toList ++ paths) := by
  have reported :
      ∀ round ∈ (cycle? path stop?).toList,
        parents.ClosedPath round ∧ ∀ id ∈ round, id ∈ path :=
    fun round found =>
      walked.closedPath_of_cycle?_eq_some (Option.mem_toList.mp found)
  constructor
  case closed =>
    intro round member
    rcases List.mem_append.mp member with first | further
    · exact (reported round first).1
    · exact later.closed round further
  case fresh =>
    intro round member id onRound
    rcases List.mem_append.mp member with first | further
    · exact walked.fresh id ((reported round first).2 id onRound)
    · exact fun before => later.fresh round further id onRound
        (List.mem_append_right _ before)
  case covers =>
    intro id above notSeen
    by_cases onWalk : id ∈ path
    · obtain ⟨round, found, onRound⟩ :=
        walked.exists_cycle?_of_hasAncestor_self distinct seenClosed
          onWalk above
      exact ⟨round, by simp [found], onRound⟩
    · obtain ⟨round, member, onRound⟩ :=
        later.covers id above (by simp [onWalk, notSeen])
      exact ⟨round, List.mem_append_right _ member, onRound⟩
  case apart =>
    refine List.pairwise_append.mpr ⟨?_, later.apart, ?_⟩
    · cases cycle? path stop? with
      | none =>
          exact .nil
      | some round =>
          exact List.pairwise_singleton _ _
    · intro round first other further id onRound onOther
      exact later.fresh other further id onOther
        (List.mem_append_left _ ((reported round first).2 id onRound))

/-- Walks from all groups that may lie on circles find all circles. -/
theorem foundOutside_cyclesFrom
    (distinct : (parents.map Prod.fst).Nodup)
    (closed : parents.Closed)
    {seen starts : List String}
    (seenClosed : parents.ClosedUpward seen)
    (listed : starts ⊆ parents.map Prod.fst)
    (covered :
      ∀ id, parents.HasAncestor id id → id ∉ seen → id ∈ starts) :
    parents.FoundOutside seen (parents.cyclesFrom seen starts) := by
  -- What was seen stays closed upward, so of each circle all groups are seen or
  -- none are.
  induction starts generalizing seen with
  | nil =>
      exact
        { closed := by simp [cyclesFrom]
          fresh := by simp [cyclesFrom]
          covers := fun id above notSeen =>
            absurd (covered id above notSeen) List.not_mem_nil
          apart := .nil }
  | cons start rest inductionHypothesis =>
      have walked :=
        walked_walk_length closed seen (listed List.mem_cons_self)
      refine FoundOutside.cons_walk distinct walked seenClosed
        (inductionHypothesis (walked.closedUpward distinct seenClosed)
          (fun id member => listed (List.mem_cons_of_mem start member)) ?_)
      intro id above notSeen
      rw [List.mem_append, not_or] at notSeen
      have isStart : id ≠ start := by
        rintro rfl
        exact (List.mem_append.mp walked.start_mem).elim notSeen.1 notSeen.2
      exact (List.mem_cons.mp (covered id above notSeen.2)).resolve_left
        isStart

/-- The search reports exactly the circles of the parent links. -/
theorem listsCycles_cycles
    (distinct : (parents.map Prod.fst).Nodup)
    (closed : parents.Closed) :
    parents.ListsCycles parents.cycles := by
  have permuted := Text.ascending_perm (parents.map Prod.fst)
  have found : parents.FoundOutside [] parents.cycles :=
    foundOutside_cyclesFrom distinct closed (by simp [ClosedUpward])
      permuted.subset
      (fun id above _ => permuted.mem_iff.mpr above.mem)
  constructor
  case closed =>
    exact found.closed
  case exact =>
    intro cycle
    rw [List.mem_map]
    constructor
    · rintro ⟨path, listed, rfl⟩
      exact (found.closed path listed).isCycle
    · intro isCycle
      obtain ⟨id, member⟩ := isCycle.exists_mem
      obtain ⟨path, listed, onPath⟩ :=
        found.covers id (isCycle.hasAncestor_self member) List.not_mem_nil
      have closedPath := found.closed path listed
      exact ⟨path, listed,
        closedPath.isCycle.eq_of_mem distinct isCycle
          (closedPath.mem_circle.mpr onPath) member⟩
  case once =>
    refine List.pairwise_map.mpr (found.apart.imp_of_mem ?_)
    intro left right leftListed rightListed apart same
    have leftClosed := found.closed left leftListed
    have rightClosed := found.closed right rightListed
    obtain ⟨id, member⟩ := leftClosed.isCycle.exists_mem
    exact apart (leftClosed.mem_circle.mp member)
      (rightClosed.mem_circle.mp (same ▸ member))
  case members =>
    intro id
    constructor
    · rintro ⟨path, listed, onPath⟩
      have closedPath := found.closed path listed
      exact closedPath.isCycle.hasAncestor_self
        (closedPath.mem_circle.mpr onPath)
    · intro above
      exact found.covers id above List.not_mem_nil

/-- There is no circle exactly when no group is its own ancestor. -/
theorem ListsCycles.eq_nil_iff
    {paths : List (List String)}
    (lists : parents.ListsCycles paths) :
    paths = [] ↔ ∀ id, ¬ parents.HasAncestor id id := by
  constructor
  · rintro rfl id above
    obtain ⟨path, listed, _⟩ := (lists.members id).mpr above
    exact List.not_mem_nil listed
  · intro acyclic
    apply List.eq_nil_iff_forall_not_mem.mpr
    intro path listed
    obtain ⟨first, between, rfl⟩ := (lists.closed path listed).closes
    exact acyclic first ((lists.members first).mp ⟨_, listed, by simp⟩)

/-- There is no circle exactly when every way up ends at a root. -/
theorem ListsCycles.eq_nil_iff_grounded
    (distinct : (parents.map Prod.fst).Nodup)
    (closed : parents.Closed)
    {paths : List (List String)}
    (lists : parents.ListsCycles paths) :
    paths = [] ↔ ∀ id ∈ parents.map Prod.fst, parents.Grounded id := by
  rw [lists.eq_nil_iff]
  constructor
  · exact fun acyclic id known => closed.grounded acyclic known
  · intro grounded id above
    exact (grounded id above.mem).not_hasAncestor_self distinct above

end FleetConfig.Parents
