import FleetConfig.Proofs.RecencyCache
import Mathlib.Data.List.Dedup
import Mathlib.Data.List.DropRight

/-!
# The order in which caches keep their keys

A recency cache holds each key once, and no more keys than its capacity allows.
Of what is stored it keeps the end: as long as nothing is taken out, its keys are
the last ones in the history of all stored keys, each at its last occurrence.
Taking keys out leaves the others in the order of that history.
-/

namespace FleetConfig

namespace RecencyCache

section LastOccurrences

variable {κ : Type} [DecidableEq κ]

/-- Of a key that is added at the end, the earlier occurrences no longer count. -/
theorem dedup_append_singleton
    (history : List κ)
    (key : κ) :
    (history ++ [key]).dedup = history.dedup.erase key ++ [key] := by
  induction history with
  | nil =>
      rfl
  | cons first rest inductionHypothesis =>
      rw [List.cons_append, List.dedup_cons, List.dedup_cons,
        inductionHypothesis]
      by_cases same : first = key
      · subst same
        by_cases again : first ∈ rest
        · simp [again]
        · have gone : first ∉ rest.dedup := by simpa using again
          simp [again, List.erase_of_not_mem gone]
      · by_cases again : first ∈ rest
        · simp [again]
        · simp [again, same]

omit [DecidableEq κ] in
theorem rtake_of_length_le
    {items : List κ}
    {number : Nat}
    (few : items.length ≤ number) :
    items.rtake number = items := by
  unfold List.rtake
  rw [Nat.sub_eq_zero_of_le few, List.drop_zero]

omit [DecidableEq κ] in
/-- The last items of two lists in a row come from the second if it has enough. -/
theorem rtake_append_of_le_length
    (front : List κ)
    {back : List κ}
    {number : Nat}
    (enough : number ≤ back.length) :
    (front ++ back).rtake number = back.rtake number := by
  unfold List.rtake
  rw [List.length_append, Nat.add_sub_assoc enough,
    List.drop_append, List.drop_of_length_le (Nat.le_add_right _ _)]
  simp

/--
Among the last keys, with room for one more, a key can be erased before or after
the others are dropped.
-/
theorem rtake_erase_rtake
    {keys : List κ}
    (distinct : keys.Nodup)
    (key : κ)
    (number : Nat) :
    ((keys.rtake (number + 1)).erase key).rtake number =
      (keys.erase key).rtake number := by
  let front := keys.take (keys.length - (number + 1))
  have parted : front ++ keys.rtake (number + 1) = keys :=
    List.take_append_drop _ keys
  have backDistinct : (keys.rtake (number + 1)).Nodup :=
    distinct.sublist (List.drop_sublist _ _)
  by_cases few : keys.length ≤ number + 1
  · rw [rtake_of_length_le few]
  · have long : (keys.rtake (number + 1)).length = number + 1 := by
      unfold List.rtake
      rw [List.length_drop]
      omega
    have enough :
        number ≤ ((keys.rtake (number + 1)).filter (· != key)).length := by
      have least :=
        List.le_length_erase (a := key) (l := keys.rtake (number + 1))
      rw [backDistinct.erase_eq_filter] at least
      omega
    rw [backDistinct.erase_eq_filter, distinct.erase_eq_filter]
    conv_rhs => rw [← parted, List.filter_append]
    exact (rtake_append_of_le_length _ enough).symm

/--
In a history the last occurrence of one key comes before the last occurrence of
another.
-/
def LastBefore
    (history : List κ)
    (older newer : κ) :
    Prop :=
  ∃ before after,
    history = before ++ older :: after ∧ older ∉ after ∧ newer ∈ after

omit [DecidableEq κ] in
theorem LastBefore.cons
    {history : List κ}
    {older newer : κ}
    (ordered : LastBefore history older newer)
    (first : κ) :
    LastBefore (first :: history) older newer := by
  obtain ⟨before, after, rfl, last, later⟩ := ordered
  exact ⟨first :: before, after, rfl, last, later⟩

/-- Keys without repetitions, each at its last occurrence, are in the order of these. -/
theorem pairwise_lastBefore_dedup
    (history : List κ) :
    history.dedup.Pairwise (LastBefore history) := by
  induction history with
  | nil =>
      exact List.Pairwise.nil
  | cons first rest inductionHypothesis =>
      have restOrdered :=
        inductionHypothesis.imp fun ordered => ordered.cons first
      rw [List.dedup_cons]
      split
      case isTrue =>
        exact restOrdered
      case isFalse last =>
        refine List.pairwise_cons.mpr ⟨fun key member => ?_, restOrdered⟩
        exact ⟨[], rest, rfl, last, List.mem_dedup.mp member⟩

end LastOccurrences

variable {κ α : Type}

/-- The keys of a cache, the least recently used one first. -/
def keys (cache : RecencyCache κ α) : List κ :=
  cache.entries.map Prod.fst

@[simp] theorem length_keys
    (cache : RecencyCache κ α) :
    cache.keys.length = cache.count :=
  List.length_map ..

/-- No key stands twice, and there are no more entries than the capacity allows. -/
structure Bounded (cache : RecencyCache κ α) : Prop where
  distinct : cache.keys.Nodup
  fits : cache.count ≤ cache.capacity

theorem bounded_ofSize
    (size : Int) :
    (ofSize size : RecencyCache κ α).Bounded :=
  ⟨List.nodup_nil, Nat.zero_le _⟩

/-- Whatever size is asked for, there is room for one entry. -/
theorem exists_capacity_ofSize
    (size : Int) :
    ∃ number, (ofSize size : RecencyCache κ α).capacity = number + 1 :=
  Nat.exists_eq_succ_of_ne_zero (by simp only [ofSize]; omega)

theorem bounded_clear
    (cache : RecencyCache κ α) :
    cache.clear.Bounded :=
  ⟨List.nodup_nil, Nat.zero_le _⟩

section Keys

variable [DecidableEq κ] {cache : RecencyCache κ α}

/-- What is found is what is held under the key. -/
theorem find?_eq_none_iff
    {key : κ} :
    cache.find? key = none ↔ key ∉ cache.keys := by
  rw [← Option.not_isSome_iff_eq_none]
  exact not_congr Entries.lookup_isSome_iff

theorem keys_remove
    (cache : RecencyCache κ α)
    (key : κ) :
    (cache.remove key).keys = cache.keys.filter (· != key) := by
  unfold remove keys
  rw [List.filter_map]
  rfl

theorem keys_remove_sublist
    (cache : RecencyCache κ α)
    (key : κ) :
    (cache.remove key).keys.Sublist cache.keys := by
  rw [keys_remove]
  exact List.filter_sublist

/-- Without an entry under a key there is none to take out. -/
theorem entries_remove_of_not_mem
    {key : κ}
    (absent : key ∉ cache.keys) :
    (cache.remove key).entries = cache.entries := by
  refine List.filter_eq_self.mpr fun entry member => ?_
  have different : entry.1 ≠ key := by
    rintro rfl
    exact absent (List.mem_map_of_mem member)
  simpa using different

namespace Bounded

variable (bounded : cache.Bounded)

include bounded

theorem remove
    (key : κ) :
    (cache.remove key).Bounded :=
  ⟨bounded.distinct.sublist (keys_remove_sublist cache key),
    (List.length_filter_le _ _).trans bounded.fits⟩

/-- Taking out a key that is held makes room for one entry. -/
theorem count_remove_lt
    {key : κ}
    (member : key ∈ cache.keys) :
    (cache.remove key).count < cache.count := by
  rw [← length_keys, ← length_keys, keys_remove,
    ← bounded.distinct.erase_eq_filter, List.length_erase_of_mem member]
  exact Nat.sub_one_lt (List.length_pos_of_mem member).ne'

end Bounded

section Storing

variable {number : Nat} (room : cache.capacity = number + 1)

include room

/-- The entry that is stored comes last, after as many of the others as there is room for. -/
theorem entries_store
    (key : κ)
    (value : α) :
    (cache.store key value).entries =
      (cache.remove key).entries.rtake number ++ [(key, value)] := by
  rw [← List.rtake_concat_succ, ← room]
  rfl

theorem keys_store
    (distinct : cache.keys.Nodup)
    (key : κ)
    (value : α) :
    (cache.store key value).keys =
      (cache.keys.erase key).rtake number ++ [key] := by
  have removed := keys_remove cache key
  rw [← distinct.erase_eq_filter] at removed
  unfold keys at removed ⊢
  rw [entries_store room, ← removed]
  simp [List.rtake]

theorem Bounded.store
    (bounded : cache.Bounded)
    (key : κ)
    (value : α) :
    (cache.store key value).Bounded := by
  have others :
      ((cache.keys.erase key).rtake number).Sublist (cache.keys.erase key) :=
    List.drop_sublist _ _
  constructor
  case distinct =>
    rw [keys_store room bounded.distinct, List.nodup_append]
    refine ⟨(bounded.distinct.erase key).sublist others,
      List.nodup_singleton key, ?_⟩
    rintro other member _ isKey rfl
    cases List.mem_singleton.mp isKey
    exact bounded.distinct.not_mem_erase (others.subset member)
  case fits =>
    rw [← length_keys, keys_store room bounded.distinct]
    simp only [List.rtake, List.length_append, List.length_drop,
      List.length_singleton]
    have capacity : (cache.store key value).capacity = number + 1 := room
    omega

/--
As long as the keys are the last ones of a history, they are so when the key that
is stored is added to it.
-/
theorem keys_store_of_recent
    {history : List κ}
    (recent : cache.keys = history.dedup.rtake (number + 1))
    (key : κ)
    (value : α) :
    (cache.store key value).keys =
      (history ++ [key]).dedup.rtake (number + 1) := by
  have distinct : cache.keys.Nodup := by
    rw [recent]
    exact history.nodup_dedup.sublist (List.drop_sublist _ _)
  rw [keys_store room distinct, recent,
    rtake_erase_rtake history.nodup_dedup, dedup_append_singleton,
    List.rtake_concat_succ]

/-- Keys in the order of a history stay so when the key that is stored is added to it. -/
theorem keys_store_sublist
    {history : List κ}
    (ordered : cache.keys.Sublist history.dedup)
    (key : κ)
    (value : α) :
    (cache.store key value).keys.Sublist (history ++ [key]).dedup := by
  rw [keys_store room (history.nodup_dedup.sublist ordered),
    dedup_append_singleton]
  have others :
      ((cache.keys.erase key).rtake number).Sublist (cache.keys.erase key) :=
    List.drop_sublist _ _
  exact (others.trans (ordered.erase key)).append (List.Sublist.refl _)

/-- An entry that is stored again moves to the end; no other is dropped. -/
theorem entries_store_of_mem
    (bounded : cache.Bounded)
    {key : κ}
    (member : key ∈ cache.keys)
    (value : α) :
    (cache.store key value).entries =
      (cache.remove key).entries ++ [(key, value)] := by
  rw [entries_store room]
  have fewer := bounded.count_remove_lt member
  have fits := bounded.fits
  rw [rtake_of_length_le]
  unfold count at fewer fits
  omega

/-- As long as there is room, no entry is dropped for a new one. -/
theorem entries_store_of_lt
    {key : κ}
    (absent : key ∉ cache.keys)
    (fewer : cache.count < cache.capacity)
    (value : α) :
    (cache.store key value).entries = cache.entries ++ [(key, value)] := by
  rw [entries_store room, entries_remove_of_not_mem absent]
  rw [rtake_of_length_le]
  unfold count at fewer
  omega

/-- Without room the first entry is dropped for a new one, and no other. -/
theorem exists_entries_store_of_eq
    {key : κ}
    (absent : key ∉ cache.keys)
    (full : cache.count = cache.capacity)
    (value : α) :
    ∃ oldest rest,
      cache.entries = oldest :: rest ∧
        (cache.store key value).entries = rest ++ [(key, value)] := by
  unfold count at full
  cases held : cache.entries with
  | nil =>
      rw [held, room] at full
      cases full
  | cons oldest rest =>
      refine ⟨oldest, rest, rfl, ?_⟩
      rw [held, room] at full
      have others : (oldest :: rest).rtake number = rest := by
        rw [List.rtake, full, Nat.add_sub_cancel_left]
        rfl
      rw [entries_store room, entries_remove_of_not_mem absent, held, others]

end Storing

end Keys

end RecencyCache

end FleetConfig
