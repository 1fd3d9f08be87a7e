import FleetConfig.Proofs.Pattern.Cache
import FleetConfig.Proofs.RecencyOrder

/-!
# What a cache of patterns keeps of its history

Every request stores its pattern, whether it was found or compiled, and whether
it is valid or not.  So the patterns in a cache are the last ones asked for since
it was cleared, the hits are the requests for these, and every request counts.
-/

namespace FleetConfig

/-- Compiling a pattern succeeds or finds it invalid; it does not break down. -/
def Pattern.Settles (source : String) : Prop :=
  ∃ compiled, Pattern.compile source = .ok compiled

namespace PatternCache

/-- What is asked of a cache. -/
inductive Call where
  | request (source : String)
  | clear
  deriving DecidableEq

namespace Call

/-- The pattern that is asked for. -/
def source? : Call → Option String
  | .request source =>
      some source
  | .clear =>
      none

/-- The patterns asked for since the last clearing, in order. -/
def sourcesSinceClear (calls : List Call) : List String :=
  (calls.rtakeWhile fun call => call ≠ .clear).filterMap source?

/-- The number of requests. -/
def requestCount (calls : List Call) : Nat :=
  calls.countP fun call => call ≠ .clear

theorem sourcesSinceClear_request
    (calls : List Call)
    (source : String) :
    sourcesSinceClear (calls ++ [.request source]) =
      sourcesSinceClear calls ++ [source] := by
  unfold sourcesSinceClear
  rw [List.rtakeWhile_concat_pos _ _ _ (by simp), List.filterMap_append]
  rfl

theorem sourcesSinceClear_clear
    (calls : List Call) :
    sourcesSinceClear (calls ++ [.clear]) = [] := by
  unfold sourcesSinceClear
  rw [List.rtakeWhile_concat_neg _ _ _ (by simp)]
  rfl

theorem requestCount_request
    (calls : List Call)
    (source : String) :
    requestCount (calls ++ [.request source]) = requestCount calls + 1 := by
  simp [requestCount]

theorem requestCount_clear
    (calls : List Call) :
    requestCount (calls ++ [.clear]) = requestCount calls := by
  simp [requestCount]

end Call

/-- A cache after a call. -/
def handle (cache : PatternCache) : Call → PatternCache
  | .request source =>
      (cache.request source).2
  | .clear =>
      cache.clear

/-- An empty cache of some size after calls, one after the other. -/
def afterAll
    (size : Int)
    (calls : List Call) :
    PatternCache :=
  calls.foldl handle (.ofSize size)

/--
The most recent ones of the patterns asked for since the last clearing, each once,
as many as a cache of some size has room for.
-/
def mostRecent
    (size : Int)
    (calls : List Call) :
    List String :=
  (Call.sourcesSinceClear calls).dedup.rtake (max 1 size).toNat

theorem mostRecent_of_sourcesSinceClear_eq_nil
    (size : Int)
    {calls : List Call}
    (none : Call.sourcesSinceClear calls = []) :
    mostRecent size calls = [] := by
  rw [mostRecent, none]
  exact List.rtake_nil _

/--
A request for a pattern that settles gives what compiling gives, counts as a hit
exactly if the pattern is held, and stores it in any case.
-/
theorem Sound.request_eq
    {cache : PatternCache}
    (sound : cache.Sound)
    {source : String}
    {compiled : Compiled}
    (compiles : Pattern.compile source = .ok compiled) :
    cache.request source =
      (.ok compiled,
        { recent := cache.recent.store source compiled,
          hits :=
            if source ∈ cache.recent.keys then cache.hits + 1 else cache.hits,
          misses :=
            if source ∈ cache.recent.keys then
              cache.misses
            else
              cache.misses + 1 }) := by
  unfold PatternCache.request
  cases found : cache.recent.find? source with
  | some kept =>
      have held : source ∈ cache.recent.keys := by
        by_contra absent
        rw [RecencyCache.find?_eq_none_iff.mpr absent] at found
        contradiction
      have same := RecencyCache.Every.find? sound found
      rw [compiles] at same
      cases same
      simp [held]
  | none =>
      have absent := RecencyCache.find?_eq_none_iff.mp found
      simp [compiles, absent]

/-- A cache is what calls to an empty one of some size leave. -/
structure Reflects
    (cache : PatternCache)
    (size : Int)
    (calls : List Call) :
    Prop where
  capacity : cache.recent.capacity = (max 1 size).toNat
  keys : cache.recent.keys = mostRecent size calls
  sound : cache.Sound
  counted : cache.hits + cache.misses = Call.requestCount calls

namespace Reflects

theorem ofSize
    (size : Int) :
    (PatternCache.ofSize size).Reflects size [] :=
  { capacity := rfl
    keys := (mostRecent_of_sourcesSinceClear_eq_nil size rfl).symm
    sound := sound_ofSize size
    counted := rfl }

variable {cache : PatternCache} {size : Int} {calls : List Call}

theorem request
    (reflects : cache.Reflects size calls)
    {source : String}
    (settles : Pattern.Settles source) :
    (cache.request source).2.Reflects size (calls ++ [.request source]) := by
  obtain ⟨compiled, compiles⟩ := settles
  obtain ⟨number, room⟩ :=
    RecencyCache.exists_capacity_ofSize (κ := String) (α := Compiled) size
  have sameRoom : (max 1 size).toNat = number + 1 := room
  have recent := reflects.keys
  unfold mostRecent at recent
  rw [sameRoom] at recent
  rw [reflects.sound.request_eq compiles]
  constructor
  case capacity =>
    exact reflects.capacity
  case keys =>
    unfold mostRecent
    rw [Call.sourcesSinceClear_request, sameRoom]
    exact RecencyCache.keys_store_of_recent
      (reflects.capacity.trans sameRoom) recent source compiled
  case sound =>
    exact RecencyCache.Every.store reflects.sound compiles
  case counted =>
    rw [Call.requestCount_request, ← reflects.counted]
    dsimp only
    split <;> omega

theorem clear
    (reflects : cache.Reflects size calls) :
    cache.clear.Reflects size (calls ++ [.clear]) := by
  constructor
  case capacity =>
    exact reflects.capacity
  case keys =>
    exact (mostRecent_of_sourcesSinceClear_eq_nil size
      (Call.sourcesSinceClear_clear calls)).symm
  case sound =>
    exact sound_clear cache
  case counted =>
    rw [Call.requestCount_clear]
    exact reflects.counted

/-- An empty cache reflects all calls that are made to it. -/
theorem afterAll
    (size : Int)
    (calls : List Call)
    (settle : ∀ source, .request source ∈ calls → Pattern.Settles source) :
    (afterAll size calls).Reflects size calls := by
  induction calls using List.reverseRecOn with
  | nil =>
      exact ofSize size
  | append_singleton calls call inductionHypothesis =>
      have before := inductionHypothesis fun source member =>
        settle source (List.mem_append_left [call] member)
      unfold PatternCache.afterAll at before ⊢
      rw [List.foldl_concat]
      cases call with
      | request source =>
          exact before.request (settle source (by simp))
      | clear =>
          exact before.clear

end Reflects

/--
After any calls a cache holds the most recent of the patterns asked for since it
was cleared, the least recent first, be they valid or not, each with what compiling
it gives.  A request gives what compiling the pattern gives, for an invalid one the
same reason and position and so the same message, and it is a hit exactly if the
pattern is held.  All requests that were ever made are hits or misses.
-/
theorem holds_mostRecent
    (size : Int)
    (calls : List Call)
    (settle : ∀ source, .request source ∈ calls → Pattern.Settles source) :
    (afterAll size calls).recent.keys = mostRecent size calls ∧
      (∀ entry ∈ (afterAll size calls).recent.entries,
        Pattern.compile entry.1 = .ok entry.2) ∧
      (∀ source compiled,
        Pattern.compile source = .ok compiled →
        ((afterAll size calls).request source).1 = .ok compiled ∧
          ((afterAll size calls).request source).2.hits =
            (afterAll size calls).hits +
              if source ∈ mostRecent size calls then 1 else 0) ∧
      (afterAll size calls).hits + (afterAll size calls).misses =
        Call.requestCount calls := by
  have reflects := Reflects.afterAll size calls settle
  refine ⟨reflects.keys, fun entry => reflects.sound entry.1 entry.2, ?_,
    reflects.counted⟩
  intro source compiled compiles
  rw [reflects.sound.request_eq compiles, reflects.keys]
  refine ⟨rfl, ?_⟩
  dsimp only
  split <;> rfl

/-- Calls with a pattern that is asked for twice and one that is invalid. -/
def Sample.calls : List Call :=
  [.request "^web", .clear, .request "a+", .request "(", .request "a+",
    .request "[0-9]"]

/-- The invalid pattern is no longer among the last two, so it is missed and compiled anew. -/
theorem holds_mostRecent_sample :
    (∀ source, .request source ∈ Sample.calls → Pattern.Settles source) ∧
      (afterAll 2 Sample.calls).recent.keys = ["a+", "[0-9]"] ∧
      ((afterAll 2 Sample.calls).request "(").1 =
        .ok (.error ⟨.unterminatedGroup, some 0⟩) := by
  have settle :
      ∀ source, .request source ∈ Sample.calls → Pattern.Settles source := by
    intro source member
    simp only [Sample.calls, List.mem_cons, List.not_mem_nil, Call.request.injEq,
      reduceCtorEq, or_false, false_or] at member
    rcases member with rfl | rfl | rfl | rfl | rfl
    all_goals exact ⟨_, rfl⟩
  obtain ⟨kept, _, answered, _⟩ := holds_mostRecent 2 Sample.calls settle
  exact ⟨settle, kept.trans (by decide), (answered "(" _ (by rfl)).1⟩

end PatternCache

end FleetConfig
