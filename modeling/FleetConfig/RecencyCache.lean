/-!
# Recency caches

A cache keeps a bounded number of entries, the least recently used first.  Using
an entry moves it to the end; storing one drops entries from the front until the
bound holds again.
-/

namespace FleetConfig

/-- Entries under keys, least recently used first, and how many of them may stay. -/
structure RecencyCache (κ α : Type) where
  capacity : Nat
  entries : List (κ × α)
  deriving Repr

namespace RecencyCache

/-- An empty cache; it holds at least one entry whatever size is asked for. -/
def ofSize (size : Int) : RecencyCache κ α :=
  ⟨(max 1 size).toNat, []⟩

/-- The number of entries. -/
def count (cache : RecencyCache κ α) : Nat :=
  cache.entries.length

/-- The entry under a key. -/
def find?
    [BEq κ]
    (cache : RecencyCache κ α)
    (key : κ) :
    Option α :=
  cache.entries.lookup key

/-- Drop the entry under a key. -/
def remove
    [BEq κ]
    (cache : RecencyCache κ α)
    (key : κ) :
    RecencyCache κ α :=
  { cache with entries := cache.entries.filter fun entry => !(entry.1 == key) }

/-- Put an entry at the end and drop the first ones until the bound holds. -/
def store
    [BEq κ]
    (cache : RecencyCache κ α)
    (key : κ)
    (value : α) :
    RecencyCache κ α :=
  let entries := (cache.remove key).entries ++ [(key, value)]
  { cache with entries := entries.drop (entries.length - cache.capacity) }

/-- Drop all entries. -/
def clear (cache : RecencyCache κ α) : RecencyCache κ α :=
  { cache with entries := [] }

end RecencyCache

end FleetConfig
