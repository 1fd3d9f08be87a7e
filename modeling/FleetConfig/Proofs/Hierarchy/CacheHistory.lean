import FleetConfig.Proofs.Hierarchy.Cache
import FleetConfig.Proofs.Hierarchy.Validation
import FleetConfig.Proofs.RecencyOrder

/-!
# What a cache of hierarchies keeps of its history

Only requests that get a hierarchy leave a trace in the cache.  Its versions are
in the order in which they were last served; a new one pushes out the version that
was not served for the longest time, and a request that is refused changes nothing.
It is refused again later, unless a hierarchy was served under its version in
between.
-/

namespace FleetConfig

namespace RecencyCache

/-- Storing an entry adds no other key. -/
theorem mem_keys_store
    {κ α : Type}
    [DecidableEq κ]
    {cache : RecencyCache κ α}
    {key other : κ}
    {value : α}
    (member : other ∈ (cache.store key value).keys) :
    other ∈ cache.keys ∨ other = key := by
  obtain ⟨entry, stored, rfl⟩ := List.mem_map.mp member
  rcases List.mem_append.mp (List.mem_of_mem_drop stored) with kept | added
  · exact .inl (List.mem_map_of_mem (List.mem_filter.mp kept).1)
  · cases List.mem_singleton.mp added
    exact .inr rfl

end RecencyCache

namespace HierarchyCache

/-- What is asked of a cache. -/
inductive Call where
  | request (groupSet : GroupSet)
  | invalidate (version? : Option String)

namespace Call

/-- The group set that is presented. -/
def groupSet? : Call → Option GroupSet
  | .request groupSet =>
      some groupSet
  | .invalidate _ =>
      none

/-- The group sets that are presented with calls. -/
def groupSets (calls : List Call) : List GroupSet :=
  calls.filterMap groupSet?

end Call

/-- Drop the hierarchy of a version, or all of them if no version is named. -/
def drop (cache : HierarchyCache) : Option String → HierarchyCache
  | some version =>
      cache.invalidate version
  | none =>
      cache.clear

/-- A cache after a call. -/
def handle (cache : HierarchyCache) : Call → HierarchyCache
  | .request groupSet =>
      (cache.request groupSet).2
  | .invalidate version? =>
      cache.drop version?

/-- A cache after calls, one after the other. -/
def handleAll
    (cache : HierarchyCache)
    (calls : List Call) :
    HierarchyCache :=
  calls.foldl handle cache

/-- The version under which a call gets a hierarchy, if it does. -/
def served? (cache : HierarchyCache) : Call → Option String
  | .request groupSet =>
      if (cache.request groupSet).1.isOk then some groupSet.version else none
  | .invalidate _ =>
      none

/-- The versions under which calls get hierarchies, one after the other. -/
def served (cache : HierarchyCache) : List Call → List String
  | [] =>
      []
  | call :: rest =>
      (cache.served? call).toList ++ (cache.handle call).served rest

/-- A request stores the hierarchy that is held or that validation gives, if there is one. -/
theorem request_cases
    (cache : HierarchyCache)
    (groupSet : GroupSet) :
    (∃ hierarchy,
        (cache.recent.find? groupSet.version = some hierarchy ∨
          cache.recent.find? groupSet.version = none ∧
            groupSet.validate cache.limits = .ok hierarchy) ∧
        cache.request groupSet =
          (.ok hierarchy,
            { cache with
              recent := cache.recent.store groupSet.version hierarchy })) ∨
      ∃ error,
        cache.recent.find? groupSet.version = none ∧
          groupSet.validate cache.limits = .error error ∧
          cache.request groupSet = (.error error, cache) := by
  unfold request
  cases found : cache.recent.find? groupSet.version with
  | some hierarchy =>
      exact .inl ⟨hierarchy, .inl rfl, rfl⟩
  | none =>
      cases validated : groupSet.validate cache.limits with
      | ok hierarchy =>
          exact .inl ⟨hierarchy, .inr ⟨rfl, rfl⟩, rfl⟩
      | error error =>
          exact .inr ⟨error, rfl, rfl, rfl⟩

theorem served?_of_ok
    {cache : HierarchyCache}
    {groupSet : GroupSet}
    {hierarchy : Hierarchy}
    (given : (cache.request groupSet).1 = .ok hierarchy) :
    cache.served? (.request groupSet) = some groupSet.version := by
  simp [served?, given, Except.isOk, Except.toBool]

theorem served?_of_error
    {cache : HierarchyCache}
    {groupSet : GroupSet}
    {error : HierarchyError}
    (refused : (cache.request groupSet).1 = .error error) :
    cache.served? (.request groupSet) = none := by
  simp [served?, refused, Except.isOk, Except.toBool]

/--
A cache of some size under limits remembers group sets, and its versions are in
the order of a history of versions.
-/
structure Reflects
    (cache : HierarchyCache)
    (size : Int)
    (limits : CapacityLimits)
    (groupSets : List GroupSet)
    (history : List String) :
    Prop where
  capacity : cache.recent.capacity = (max 1 size).toNat
  sameLimits : cache.limits = limits
  bounded : cache.recent.Bounded
  remembers : cache.Remembers groupSets
  ordered : cache.recent.keys.Sublist history.dedup

namespace Reflects

theorem ofSize
    (size : Int)
    (limits : CapacityLimits)
    (groupSets : List GroupSet) :
    (HierarchyCache.ofSize size limits).Reflects size limits groupSets [] :=
  { capacity := rfl
    sameLimits := rfl
    bounded := RecencyCache.bounded_ofSize size
    remembers := remembers_ofSize size limits groupSets
    ordered := List.Sublist.refl [] }

variable {cache : HierarchyCache}
  {size : Int}
  {limits : CapacityLimits}
  {groupSets : List GroupSet}
  {history : List String}

theorem exists_capacity
    (reflects : cache.Reflects size limits groupSets history) :
    ∃ number, cache.recent.capacity = number + 1 := by
  rw [reflects.capacity]
  exact RecencyCache.exists_capacity_ofSize (κ := String) (α := Hierarchy) size

/-- A hierarchy that is served is stored under its version, which then comes last. -/
theorem request
    (reflects : cache.Reflects size limits groupSets history)
    {groupSet : GroupSet}
    (member : groupSet ∈ groupSets) :
    (cache.request groupSet).2.Reflects size limits groupSets
      (history ++ (cache.served? (.request groupSet)).toList) := by
  have remembers := reflects.remembers.request member
  obtain ⟨number, room⟩ := reflects.exists_capacity
  obtain ⟨hierarchy, _, answered⟩ | ⟨error, _, _, answered⟩ :=
    request_cases cache groupSet
  · rw [served?_of_ok (congrArg Prod.fst answered)]
    rw [answered] at remembers ⊢
    exact
      { capacity := reflects.capacity
        sameLimits := reflects.sameLimits
        bounded := reflects.bounded.store room _ _
        remembers
        ordered := RecencyCache.keys_store_sublist room reflects.ordered _ _ }
  · rw [served?_of_error (congrArg Prod.fst answered), answered,
      Option.toList_none, List.append_nil]
    exact reflects

theorem drop
    (reflects : cache.Reflects size limits groupSets history)
    (version? : Option String) :
    (cache.drop version?).Reflects size limits groupSets history := by
  cases version? with
  | some version =>
      exact
        { capacity := reflects.capacity
          sameLimits := reflects.sameLimits
          bounded := reflects.bounded.remove version
          remembers := RecencyCache.Every.remove reflects.remembers version
          ordered :=
            (RecencyCache.keys_remove_sublist _ version).trans
              reflects.ordered }
  | none =>
      exact
        { capacity := reflects.capacity
          sameLimits := reflects.sameLimits
          bounded := RecencyCache.bounded_clear _
          remembers := remembers_clear cache groupSets
          ordered := List.nil_sublist _ }

/-- Calls one after the other add the versions that are served to the history. -/
theorem handleAll
    (reflects : cache.Reflects size limits groupSets history)
    {calls : List Call}
    (presented : Call.groupSets calls ⊆ groupSets) :
    (cache.handleAll calls).Reflects size limits groupSets
      (history ++ cache.served calls) := by
  induction calls generalizing cache history with
  | nil =>
      rw [served, List.append_nil]
      exact reflects
  | cons call rest inductionHypothesis =>
      unfold served
      rw [← List.append_assoc]
      cases call with
      | request groupSet =>
          obtain ⟨member, others⟩ := List.cons_subset.mp presented
          exact inductionHypothesis (reflects.request member) others
      | invalidate version? =>
          have dropped := reflects.drop version?
          rw [served?, Option.toList_none, List.append_nil]
          exact inductionHypothesis dropped presented

end Reflects

/-- A version is held after a call only if it was held before or is served by the call. -/
theorem mem_keys_handle
    {cache : HierarchyCache}
    {call : Call}
    {version : String}
    (member : version ∈ (cache.handle call).recent.keys) :
    version ∈ cache.recent.keys ∨ version ∈ (cache.served? call).toList := by
  cases call with
  | request groupSet =>
      change version ∈ (cache.request groupSet).2.recent.keys at member
      obtain ⟨hierarchy, _, answered⟩ | ⟨error, _, _, answered⟩ :=
        request_cases cache groupSet
      · rw [answered] at member
        rw [served?_of_ok (congrArg Prod.fst answered), Option.mem_toList,
          Option.some.injEq, eq_comm]
        exact RecencyCache.mem_keys_store member
      · rw [answered] at member
        exact .inl member
  | invalidate version? =>
      refine .inl ?_
      cases version? with
      | some dropped =>
          exact (RecencyCache.keys_remove_sublist _ dropped).subset member
      | none =>
          exact absurd member List.not_mem_nil

/-- A version that is not held and not served by any of some calls is not held after them. -/
theorem not_mem_keys_handleAll
    {cache : HierarchyCache}
    {calls : List Call}
    {version : String}
    (absent : version ∉ cache.recent.keys)
    (notServed : version ∉ cache.served calls) :
    version ∉ (cache.handleAll calls).recent.keys := by
  induction calls generalizing cache with
  | nil =>
      exact absent
  | cons call rest inductionHypothesis =>
      unfold served at notServed
      rw [List.mem_append, not_or] at notServed
      refine inductionHypothesis (fun member => ?_) notServed.2
      exact (mem_keys_handle member).elim absent notServed.1

theorem limits_handleAll
    (cache : HierarchyCache)
    (calls : List Call) :
    (cache.handleAll calls).limits = cache.limits := by
  induction calls generalizing cache with
  | nil =>
      rfl
  | cons call rest inductionHypothesis =>
      refine (inductionHypothesis (cache.handle call)).trans ?_
      cases call with
      | request groupSet =>
          exact limits_request cache groupSet
      | invalidate version? =>
          cases version? <;> rfl

/--
What a request gives and which entries are there after it: an entry that is held
moves to the end, a new one is added there, if need be in place of the one whose
version was not served for the longest time, and a refusal changes nothing.
-/
inductive Responds
    (cache : HierarchyCache)
    (history : List String)
    (groupSet : GroupSet) :
    Except HierarchyError Hierarchy → List (String × Hierarchy) → Prop where
  | moved
      {hierarchy : Hierarchy}
      (held : (groupSet.version, hierarchy) ∈ cache.recent.entries) :
      Responds cache history groupSet (.ok hierarchy)
        ((cache.recent.entries.filter fun entry =>
            entry.1 != groupSet.version) ++
          [(groupSet.version, hierarchy)])
  | added
      {hierarchy : Hierarchy}
      (absent : groupSet.version ∉ cache.recent.keys)
      (accepted : groupSet.validate cache.limits = .ok hierarchy)
      (fewer : cache.recent.count < cache.recent.capacity) :
      Responds cache history groupSet (.ok hierarchy)
        (cache.recent.entries ++ [(groupSet.version, hierarchy)])
  | replaced
      {hierarchy : Hierarchy}
      {oldest : String × Hierarchy}
      {rest : List (String × Hierarchy)}
      (absent : groupSet.version ∉ cache.recent.keys)
      (accepted : groupSet.validate cache.limits = .ok hierarchy)
      (full : cache.recent.count = cache.recent.capacity)
      (held : cache.recent.entries = oldest :: rest)
      (older :
        ∀ entry ∈ rest,
          RecencyCache.LastBefore history oldest.1 entry.1) :
      Responds cache history groupSet (.ok hierarchy)
        (rest ++ [(groupSet.version, hierarchy)])
  | refused
      {error : HierarchyError}
      (absent : groupSet.version ∉ cache.recent.keys)
      (rejected : groupSet.validate cache.limits = .error error) :
      Responds cache history groupSet (.error error) cache.recent.entries

namespace Reflects

variable {cache : HierarchyCache}
  {size : Int}
  {limits : CapacityLimits}
  {groupSets : List GroupSet}
  {history : List String}

/-- The versions are in the order in which they were last served. -/
theorem pairwise_lastBefore
    (reflects : cache.Reflects size limits groupSets history) :
    cache.recent.keys.Pairwise (RecencyCache.LastBefore history) :=
  (RecencyCache.pairwise_lastBefore_dedup history).sublist reflects.ordered

theorem responds
    (reflects : cache.Reflects size limits groupSets history)
    (groupSet : GroupSet) :
    cache.Responds history groupSet (cache.request groupSet).1
      (cache.request groupSet).2.recent.entries := by
  obtain ⟨number, room⟩ := reflects.exists_capacity
  obtain ⟨hierarchy, held | ⟨absent, accepted⟩, answered⟩ |
      ⟨error, absent, rejected, answered⟩ :=
    request_cases cache groupSet
  · have listed := Entries.mem_of_lookup held
    rw [answered]
    dsimp only
    rw [RecencyCache.entries_store_of_mem room reflects.bounded
      (List.mem_map_of_mem listed)]
    exact .moved listed
  · have notHeld := RecencyCache.find?_eq_none_iff.mp absent
    rw [answered]
    dsimp only
    rcases reflects.bounded.fits.lt_or_eq with fewer | full
    · rw [RecencyCache.entries_store_of_lt room notHeld fewer]
      exact .added notHeld accepted fewer
    · obtain ⟨oldest, rest, shape, stored⟩ :=
        RecencyCache.exists_entries_store_of_eq room notHeld full hierarchy
      rw [stored]
      refine .replaced notHeld accepted full shape fun entry member => ?_
      have ordered := reflects.pairwise_lastBefore
      rw [RecencyCache.keys, shape] at ordered
      exact (List.pairwise_cons.mp ordered).1 entry.1
        (List.mem_map_of_mem member)
  · rw [answered]
    exact .refused (RecencyCache.find?_eq_none_iff.mp absent) rejected

end Reflects

/-- A refused request leaves the cache as it is. -/
theorem request_of_error
    {cache : HierarchyCache}
    {groupSet : GroupSet}
    {error : HierarchyError}
    (refused : (cache.request groupSet).1 = .error error) :
    groupSet.version ∉ cache.recent.keys ∧
      groupSet.validate cache.limits = .error error ∧
      (cache.request groupSet).2 = cache := by
  obtain ⟨hierarchy, _, answered⟩ | ⟨found, absent, rejected, answered⟩ :=
    request_cases cache groupSet
  · rw [answered] at refused
    contradiction
  · rw [answered] at refused ⊢
    cases refused
    exact ⟨RecencyCache.find?_eq_none_iff.mp absent, rejected, rfl⟩

/-- A refused group set is validated and refused again until its version is served. -/
theorem request_again_of_error
    {cache : HierarchyCache}
    {groupSet : GroupSet}
    {error : HierarchyError}
    (refused : (cache.request groupSet).1 = .error error)
    {later : List Call}
    (notServed : groupSet.version ∉ cache.served later) :
    (cache.handleAll later).request groupSet =
      (.error error, cache.handleAll later) := by
  obtain ⟨absent, rejected, _⟩ := request_of_error refused
  have stillAbsent :=
    RecencyCache.find?_eq_none_iff.mpr (not_mem_keys_handleAll absent notServed)
  rw [← limits_handleAll cache later] at rejected
  unfold request
  rw [stillAbsent, rejected]

/--
What a cache of some size under limits keeps of the group sets that were presented
and of the versions that were served, and what it does next.
-/
structure Keeps
    (cache : HierarchyCache)
    (size : Int)
    (limits : CapacityLimits)
    (groupSets : List GroupSet)
    (history : List String) :
    Prop where
  sameLimits : cache.limits = limits
  capacity : cache.recent.capacity = (max 1 size).toNat
  fits : cache.recent.count ≤ (max 1 size).toNat
  distinct : cache.recent.keys.Nodup
  remembers :
    ∀ version hierarchy,
      (version, hierarchy) ∈ cache.recent.entries →
      hierarchy.version = version ∧
        ∃ groupSet ∈ groupSets, groupSet.GivesUnder limits version hierarchy
  served : cache.recent.keys ⊆ history
  ordered : cache.recent.keys.Pairwise (RecencyCache.LastBefore history)
  responds :
    ∀ groupSet,
      cache.Responds history groupSet (cache.request groupSet).1
        (cache.request groupSet).2.recent.entries
  refuses :
    ∀ groupSet error,
      (cache.request groupSet).1 = .error error →
      (cache.request groupSet).2 = cache ∧
        ∀ later,
          groupSet.version ∉ cache.served later →
          (cache.handleAll later).request groupSet =
            (.error error, cache.handleAll later)
  invalidates :
    ∀ version,
      (cache.drop (some version)).recent.entries =
        cache.recent.entries.filter fun entry => entry.1 != version
  clears : (cache.drop none).recent.entries = []

theorem Reflects.keeps
    {cache : HierarchyCache}
    {size : Int}
    {limits : CapacityLimits}
    {groupSets : List GroupSet}
    {history : List String}
    (reflects : cache.Reflects size limits groupSets history) :
    cache.Keeps size limits groupSets history := by
  constructor
  case sameLimits =>
    exact reflects.sameLimits
  case capacity =>
    exact reflects.capacity
  case fits =>
    rw [← reflects.capacity]
    exact reflects.bounded.fits
  case distinct =>
    exact reflects.bounded.distinct
  case remembers =>
    intro version hierarchy member
    obtain ⟨groupSet, presented, gives⟩ :=
      reflects.remembers version hierarchy member
    rw [reflects.sameLimits] at gives
    refine ⟨?_, groupSet, presented, gives⟩
    rw [GroupSet.hierarchy_of_validate gives.accepted]
    exact gives.version
  case served =>
    exact fun version member =>
      List.mem_dedup.mp (reflects.ordered.subset member)
  case ordered =>
    exact reflects.pairwise_lastBefore
  case responds =>
    exact reflects.responds
  case refuses =>
    exact fun groupSet error refused =>
      ⟨(request_of_error refused).2.2,
        fun later notServed => request_again_of_error refused notServed⟩
  case invalidates =>
    exact fun version => rfl
  case clears =>
    rfl

/-- An empty cache of some size under limits after calls, one after the other. -/
def afterAll
    (size : Int)
    (limits : CapacityLimits)
    (calls : List Call) :
    HierarchyCache :=
  (ofSize size limits).handleAll calls

/-- The versions that calls to an empty cache are served, one after the other. -/
def history
    (size : Int)
    (limits : CapacityLimits)
    (calls : List Call) :
    List String :=
  (ofSize size limits).served calls

/--
After any calls a cache holds no more hierarchies than it has room for, each under
a version of its own, which a group set that was presented under it gave.  They
are in the order in which their versions were last served, and this order decides
which one is dropped for a new one.  A refused request changes nothing, and the
group set is refused again until a hierarchy is served under its version.
-/
theorem afterAll_keeps
    (size : Int)
    (limits : CapacityLimits)
    (calls : List Call) :
    (afterAll size limits calls).Keeps size limits (Call.groupSets calls)
      (history size limits calls) :=
  ((Reflects.ofSize size limits _).handleAll (List.Subset.refl _)).keeps

namespace Sample

/-- A group that is its own parent, under a version. -/
def ring : GroupSet :=
  ⟨[FleetConfig.Sample.childOf "x" "x"], "v1"⟩

/-- A group without a parent, under the same version. -/
def root : GroupSet :=
  ⟨[Group.empty "x"], "v1"⟩

end Sample

/--
A group set is refused; after another one was accepted under the same version, the
next request for it is not validated and gets the hierarchy of the other one.
-/
theorem request_ring_after_root :
    ((afterAll 16 ⟨none, none⟩ []).request Sample.ring).1 =
        .error (.defect (.cycles [["x", "x"]])) ∧
      ((afterAll 16 ⟨none, none⟩
            [.request Sample.ring, .request Sample.root]).request
          Sample.ring).1 =
        .ok Sample.root.hierarchy ∧
      Sample.ring.validate ⟨none, none⟩ =
        .error (.defect (.cycles [["x", "x"]])) := by
  refine ⟨?_, ?_, ?_⟩
  all_goals cbv

end HierarchyCache

end FleetConfig
