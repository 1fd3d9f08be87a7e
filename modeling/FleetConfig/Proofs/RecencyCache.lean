import FleetConfig.Proofs.Value.Lookup
import FleetConfig.RecencyCache

/-!
# What recency caches keep

Which entries a recency cache drops depends on its history, but it never makes
one up.  So what holds of every entry that is stored holds of every entry that
is found, whatever the capacity is.
-/

namespace FleetConfig.RecencyCache

/-- Every entry of a cache has a property. -/
def Every
    (property : κ → α → Prop)
    (cache : RecencyCache κ α) :
    Prop :=
  ∀ key value, (key, value) ∈ cache.entries → property key value

variable {κ α : Type} {property : κ → α → Prop} {cache : RecencyCache κ α}

theorem every_ofSize
    (property : κ → α → Prop)
    (size : Int) :
    Every property (ofSize size : RecencyCache κ α) := by
  intro key value member
  exact absurd member List.not_mem_nil

theorem every_clear
    (property : κ → α → Prop)
    (cache : RecencyCache κ α) :
    Every property cache.clear := by
  intro key value member
  exact absurd member List.not_mem_nil

section Keys

variable [BEq κ] [LawfulBEq κ]

/-- What is found under a key has the property. -/
theorem Every.find?
    (every : Every property cache)
    {key : κ}
    {value : α}
    (found : cache.find? key = some value) :
    property key value :=
  every key value (Entries.mem_of_lookup found)

omit [LawfulBEq κ] in
theorem Every.remove
    (every : Every property cache)
    (key : κ) :
    Every property (cache.remove key) := by
  intro other value member
  exact every other value (List.mem_filter.mp member).1

omit [LawfulBEq κ] in
/-- Storing an entry with the property keeps the property. -/
theorem Every.store
    (every : Every property cache)
    {key : κ}
    {value : α}
    (holds : property key value) :
    Every property (cache.store key value) := by
  intro other otherValue member
  -- Dropping entries from the front only makes the list shorter.
  have listed := List.mem_of_mem_drop member
  rcases List.mem_append.mp listed with kept | added
  · exact every.remove key other otherValue kept
  · cases List.mem_singleton.mp added
    exact holds

end Keys

end FleetConfig.RecencyCache
