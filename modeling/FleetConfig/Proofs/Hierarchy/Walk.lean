import FleetConfig.Hierarchy.Validation
import FleetConfig.Proofs.Value.Lookup
import Mathlib.Data.List.Chain
import Mathlib.Logic.Relation

/-!
# Walks up the hierarchy

A group is linked to the parent it names, and its ancestors are the groups that
such links lead up to.  Validation follows the links by walks that stop at
groups seen before.  What a walk goes through is told by a relation, step by
step, so that its properties are inductions over the walk and fuel does not
enter into them.
-/

namespace FleetConfig.Parents

/-- A group names another as its parent. -/
def Links
    (parents : Parents)
    (child parent : String) :
    Prop :=
  (child, some parent) ∈ parents

/-- Links lead up from a group to another in one or more steps. -/
abbrev HasAncestor (parents : Parents) : String → String → Prop :=
  Relation.TransGen parents.Links

/-- Every parent that a group names is listed. -/
def Closed (parents : Parents) : Prop :=
  ∀ id parent, (id, some parent) ∈ parents → parent ∈ parents.map Prod.fst

/-- With every group also the parent it names is among the given ones. -/
def ClosedUpward
    (parents : Parents)
    (ids : List String) :
    Prop :=
  ∀ child ∈ ids, ∀ parent, parents.Links child parent → parent ∈ ids

variable {parents : Parents}

theorem parent?_eq_of_mem
    (distinct : (parents.map Prod.fst).Nodup)
    {id : String}
    {parent? : Option String}
    (listed : (id, parent?) ∈ parents) :
    parents.parent? id = parent? := by
  unfold Parents.parent?
  rw [(Entries.lookup_eq_some_iff_mem distinct).mpr listed]
  rfl

theorem mem_of_parent?
    {id : String}
    (known : id ∈ parents.map Prod.fst) :
    (id, parents.parent? id) ∈ parents := by
  obtain ⟨parent?, found⟩ :=
    Option.isSome_iff_exists.mp (Entries.lookup_isSome_iff.mpr known)
  have listed := Entries.mem_of_lookup found
  unfold Parents.parent?
  rw [found]
  exact listed

/-- The parent that is looked up is one that the group names. -/
theorem links_of_parent?
    {id parent : String}
    (up : parents.parent? id = some parent) :
    parents.Links id parent := by
  unfold Parents.parent? at up
  cases found : List.lookup id parents with
  | none =>
      rw [found] at up
      contradiction
  | some parent? =>
      rw [found] at up
      exact Entries.mem_of_lookup (found.trans (congrArg some up))

/-- Of different groups each names at most one parent. -/
theorem eq_of_listed
    (distinct : (parents.map Prod.fst).Nodup)
    {id : String}
    {parent? other? : Option String}
    (listed : (id, parent?) ∈ parents)
    (otherListed : (id, other?) ∈ parents) :
    parent? = other? :=
  (parent?_eq_of_mem distinct listed).symm.trans
    (parent?_eq_of_mem distinct otherListed)

theorem Links.unique
    (distinct : (parents.map Prod.fst).Nodup)
    {child parent other : String}
    (links : parents.Links child parent)
    (linksAgain : parents.Links child other) :
    parent = other :=
  Option.some.inj (eq_of_listed distinct links linksAgain)

theorem HasAncestor.mem
    {id ancestor : String}
    (above : parents.HasAncestor id ancestor) :
    id ∈ parents.map Prod.fst := by
  obtain ⟨parent, links, _⟩ := Relation.TransGen.head'_iff.mp above
  exact List.mem_map_of_mem links

/-- The groups on the way up are ancestors. -/
theorem hasAncestor_of_mem_ancestorsWithin
    {fuel : Nat}
    {id ancestor : String}
    (listed : ancestor ∈ parents.ancestorsWithin fuel id) :
    parents.HasAncestor id ancestor := by
  induction fuel generalizing id with
  | zero =>
      contradiction
  | succ fuel inductionHypothesis =>
      unfold ancestorsWithin at listed
      split at listed
      case h_1 parent up =>
        have links := links_of_parent? up
        rcases List.mem_cons.mp listed with rfl | further
        · exact .single links
        · exact .head links (inductionHypothesis further)
      case h_2 =>
        contradiction

/-- What is closed upward holds all ancestors of a group whose parent it holds. -/
theorem ClosedUpward.mem_of_hasAncestor
    {ids : List String}
    (closed : parents.ClosedUpward ids)
    {id ancestor : String}
    (holdsParent : ∀ parent, parents.Links id parent → parent ∈ ids)
    (above : parents.HasAncestor id ancestor) :
    ancestor ∈ ids := by
  induction above with
  | single links =>
      exact holdsParent _ links
  | tail _ links inductionHypothesis =>
      exact closed _ inductionHypothesis _ links

/-- How many listed groups were not seen yet. -/
def unseen
    (parents : Parents)
    (seen : List String) :
    Nat :=
  ((parents.map Prod.fst).filter fun id => !seen.contains id).length

theorem unseen_le_length
    (parents : Parents)
    (seen : List String) :
    parents.unseen seen ≤ parents.length := by
  have bound := List.length_filter_le
    (fun id => !seen.contains id) (parents.map Prod.fst)
  rwa [List.length_map] at bound

theorem unseen_cons_lt
    {seen : List String}
    {id : String}
    (known : id ∈ parents.map Prod.fst)
    (fresh : id ∉ seen) :
    parents.unseen (id :: seen) < parents.unseen seen := by
  unfold unseen
  have narrowed :
      ((parents.map Prod.fst).filter fun other =>
          !(id :: seen).contains other) =
        ((parents.map Prod.fst).filter fun other =>
          !seen.contains other).filter fun other => other != id := by
    rw [List.filter_filter]
    apply List.filter_congr
    intro other _
    by_cases same : other = id <;> simp [same]
  rw [narrowed, List.length_filter_lt_length_iff_exists]
  exact ⟨id, by simp [known, fresh], by simp⟩

/--
A walk up from a group, if there is one, goes through a path of groups that were
not seen before and stops at a group that was, if not at a root.
-/
inductive Walked (parents : Parents) :
    List String → Option String → List String → Option String → Prop where
  | top (seen : List String) :
      Walked parents seen none [] none
  | met
      {seen : List String}
      {id : String}
      (before : id ∈ seen) :
      Walked parents seen (some id) [] (some id)
  | step
      {seen path : List String}
      {id : String}
      {parent? stop? : Option String}
      (fresh : id ∉ seen)
      (listed : (id, parent?) ∈ parents)
      (above : Walked parents (id :: seen) parent? path stop?) :
      Walked parents seen (some id) (id :: path) stop?

/-- With enough steps the walk that is computed is such a walk. -/
theorem walked_walk
    (closed : parents.Closed)
    {fuel : Nat}
    {seen : List String}
    {current : String}
    (enough : parents.unseen seen < fuel)
    (known : current ∈ parents.map Prod.fst) :
    parents.Walked seen (some current)
      (parents.walk fuel seen (some current)).1
      (parents.walk fuel seen (some current)).2 := by
  -- Each step sees a listed group for the first time, so the steps outlast the
  -- unseen groups.
  induction fuel generalizing seen current with
  | zero =>
      contradiction
  | succ fuel inductionHypothesis =>
      rw [walk]
      split
      case isTrue already =>
        exact .met (by simpa using already)
      case isFalse notYet =>
        have fresh : current ∉ seen := by simpa using notYet
        have listed := mem_of_parent? known
        refine .step fresh listed ?_
        cases up : parents.parent? current with
        | none =>
            simpa [walk] using Walked.top (current :: seen)
        | some parent =>
            rw [up] at listed
            have fewer := unseen_cons_lt known fresh
            exact inductionHypothesis (by omega)
              (closed current parent listed)

/-- One step more than there are groups is enough for a walk. -/
theorem walked_walk_length
    (closed : parents.Closed)
    (seen : List String)
    {start : String}
    (known : start ∈ parents.map Prod.fst) :
    parents.Walked seen (some start)
      (parents.walk (parents.length + 1) seen (some start)).1
      (parents.walk (parents.length + 1) seen (some start)).2 :=
  walked_walk closed (Nat.lt_succ_of_le (parents.unseen_le_length seen)) known

namespace Walked

variable {seen path : List String} {current? stop? : Option String}

theorem fresh
    (walked : parents.Walked seen current? path stop?) :
    ∀ id ∈ path, id ∉ seen := by
  induction walked with
  | top seen =>
      simp
  | met before =>
      simp
  | step fresh listed above inductionHypothesis =>
      intro id member
      rcases List.mem_cons.mp member with isFirst | further
      · rw [isFirst]
        exact fresh
      · exact fun before =>
          inductionHypothesis id further (List.mem_cons_of_mem _ before)

theorem nodup
    (walked : parents.Walked seen current? path stop?) :
    path.Nodup := by
  induction walked with
  | top seen =>
      exact .nil
  | met before =>
      exact .nil
  | step fresh listed above inductionHypothesis =>
      refine List.nodup_cons.mpr ⟨?_, inductionHypothesis⟩
      exact fun further => above.fresh _ further List.mem_cons_self

/-- A walk stops only at a group seen before it or at one that it went through. -/
theorem stop_mem
    (walked : parents.Walked seen current? path stop?) :
    ∀ stop ∈ stop?, stop ∈ path ∨ stop ∈ seen := by
  induction walked with
  | top seen =>
      simp
  | met before =>
      rintro stop ⟨⟩
      exact Or.inr before
  | step fresh listed above inductionHypothesis =>
      intro stop stops
      rcases inductionHypothesis stop stops with further | before
      · exact Or.inl (List.mem_cons_of_mem _ further)
      · rcases List.mem_cons.mp before with isFirst | inSeen
        · exact Or.inl (isFirst ▸ List.mem_cons_self)
        · exact Or.inr inSeen

theorem head?_append_stop
    (walked : parents.Walked seen current? path stop?) :
    (path ++ stop?.toList).head? = current? := by
  cases walked with
  | top seen =>
      rfl
  | met before =>
      rfl
  | step fresh listed above =>
      rfl

/-- Where a walk starts is seen after it. -/
theorem start_mem
    {start : String}
    (walked : parents.Walked seen (some start) path stop?) :
    start ∈ path ++ seen := by
  cases walked with
  | met before =>
      exact List.mem_append_right _ before
  | step fresh listed above =>
      exact List.mem_cons_self

/-- Along a walk each group is followed by the parent it names. -/
theorem isChain
    (walked : parents.Walked seen current? path stop?) :
    (path ++ stop?.toList).IsChain parents.Links := by
  induction walked with
  | top seen =>
      exact .nil
  | met before =>
      exact .singleton _
  | step fresh listed above inductionHypothesis =>
      rw [List.cons_append]
      refine List.isChain_cons.mpr ⟨?_, inductionHypothesis⟩
      intro parent next
      rw [above.head?_append_stop] at next
      rw [Option.mem_def.mp next] at listed
      exact listed

/-- A walk that stops at a group that it went through leads from that group up to it. -/
theorem hasAncestor_stop
    {stop : String}
    (walked : parents.Walked seen current? path (some stop))
    (onWalk : stop ∈ path) :
    parents.HasAncestor stop stop := by
  obtain ⟨before, after, shape⟩ := List.append_of_mem onWalk
  have links := walked.isChain
  rw [shape, List.append_assoc] at links
  have round : (stop :: (after ++ [stop])).IsChain parents.Links :=
    links.right_of_append
  have above : (stop :: (after ++ [stop])).Pairwise parents.HasAncestor :=
    (round.imp fun _ _ => Relation.TransGen.single).pairwise
  exact List.rel_of_pairwise_cons above (by simp)

/-- The parent of a group on a walk comes after it. -/
theorem parent_mem
    (distinct : (parents.map Prod.fst).Nodup)
    (walked : parents.Walked seen current? path stop?)
    {before after : List String}
    {child parent : String}
    (shape : path = before ++ child :: after)
    (links : parents.Links child parent) :
    parent ∈ after ++ stop?.toList := by
  induction walked generalizing before with
  | top seen =>
      simp at shape
  | met already =>
      simp at shape
  | step fresh listed above inductionHypothesis =>
      cases before with
      | nil =>
          obtain ⟨rfl, rfl⟩ := List.cons.inj shape
          have named := eq_of_listed distinct listed links
          rw [named] at above
          exact List.mem_of_head? above.head?_append_stop
      | cons first rest =>
          exact inductionHypothesis (List.cons.inj shape).2

/-- What was seen stays closed upward when a walk is added. -/
theorem closedUpward
    (distinct : (parents.map Prod.fst).Nodup)
    (walked : parents.Walked seen current? path stop?)
    (seenClosed : parents.ClosedUpward seen) :
    parents.ClosedUpward (path ++ seen) := by
  intro child member parent links
  rcases List.mem_append.mp member with onWalk | before
  · obtain ⟨left, right, shape⟩ := List.append_of_mem onWalk
    rcases List.mem_append.mp (walked.parent_mem distinct shape links) with
        further | stops
    · rw [shape]
      simp [further]
    · have stop : parent ∈ stop? := Option.mem_toList.mp stops
      exact List.mem_append.mpr (walked.stop_mem parent stop)
  · exact List.mem_append_right _ (seenClosed child before parent links)

end Walked

end FleetConfig.Parents
