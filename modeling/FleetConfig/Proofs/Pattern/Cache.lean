import FleetConfig.Pattern.Cache
import FleetConfig.Proofs.RecencyCache

/-!
# The cache of compiled patterns is transparent

A cache is sound if every entry is what compiling its pattern gives.  Requests
keep it sound, and what they give is what compiling the pattern anew gives.
-/

namespace FleetConfig.PatternCache

/-- Every entry of a cache is what compiling its pattern gives. -/
def Sound (cache : PatternCache) : Prop :=
  cache.recent.Every fun source compiled =>
    Pattern.compile source = .ok compiled

theorem sound_ofSize
    (size : Int) :
    (PatternCache.ofSize size).Sound :=
  RecencyCache.every_ofSize _ size

theorem sound_clear
    (cache : PatternCache) :
    cache.clear.Sound :=
  RecencyCache.every_clear _ cache.recent

/-- A request gives what compiling the pattern gives and keeps the cache sound. -/
theorem Sound.request
    {cache : PatternCache}
    (sound : cache.Sound)
    (source : String) :
    (cache.request source).1 = Pattern.compile source ∧
      (cache.request source).2.Sound := by
  unfold PatternCache.request
  cases found : cache.recent.find? source with
  | some compiled =>
      have compiles := RecencyCache.Every.find? sound found
      exact ⟨compiles.symm, RecencyCache.Every.store sound compiles⟩
  | none =>
      cases compiles : Pattern.compile source with
      | ok compiled =>
          exact ⟨rfl, RecencyCache.Every.store sound compiles⟩
      | error fatal =>
          exact ⟨rfl, sound⟩

end FleetConfig.PatternCache
