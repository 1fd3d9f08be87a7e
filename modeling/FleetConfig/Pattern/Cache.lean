import FleetConfig.Pattern.Basic
import FleetConfig.RecencyCache

/-!
# The cache of compiled patterns

Patterns are compiled once and kept with the result, be it a compiled pattern or
the reason why the pattern is invalid.  A fatal fault is not kept.
-/

namespace FleetConfig

/-- What compiling a pattern gives. -/
abbrev Compiled :=
  Except Pattern.Invalid Pattern

/-- Compiled patterns with the number of requests that found and that missed one. -/
structure PatternCache where
  recent : RecencyCache String Compiled
  hits : Nat
  misses : Nat

namespace PatternCache

/-- An empty cache. -/
def ofSize (size : Int) : PatternCache :=
  ⟨.ofSize size, 0, 0⟩

/-- Whether a pattern is in the cache. -/
def has
    (cache : PatternCache)
    (source : String) :
    Bool :=
  (cache.recent.find? source).isSome

/-- Ask for a compiled pattern. -/
def request
    (cache : PatternCache)
    (source : String) :
    Except Pattern.Fatal Compiled × PatternCache :=
  match cache.recent.find? source with
  | some compiled =>
      (.ok compiled,
        { cache with
          recent := cache.recent.store source compiled,
          hits := cache.hits + 1 })
  | none =>
      match Pattern.compile source with
      | .ok compiled =>
          (.ok compiled,
            { cache with
              recent := cache.recent.store source compiled,
              misses := cache.misses + 1 })
      | .error fatal =>
          (.error fatal, cache)

/-- Drop all patterns; the numbers of requests stay. -/
def clear (cache : PatternCache) : PatternCache :=
  { cache with recent := cache.recent.clear }

end PatternCache

end FleetConfig
