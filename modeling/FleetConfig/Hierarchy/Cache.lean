import FleetConfig.Hierarchy.Validation
import FleetConfig.RecencyCache

/-!
# The cache of validated hierarchies

A hierarchy is validated once for each version of a group set.  The version
alone decides: a group set under a version that is in the cache gets the
hierarchy kept there.  Group sets that are rejected are not kept.
-/

namespace FleetConfig

/-- Validated hierarchies by version, and the limits for new ones. -/
structure HierarchyCache where
  limits : CapacityLimits
  recent : RecencyCache String Hierarchy

namespace HierarchyCache

/-- An empty cache. -/
def ofSize
    (size : Int)
    (limits : CapacityLimits) :
    HierarchyCache :=
  ⟨limits, .ofSize size⟩

/-- Whether a version is in the cache. -/
def has
    (cache : HierarchyCache)
    (version : String) :
    Bool :=
  (cache.recent.find? version).isSome

/-- Ask for the hierarchy of a group set. -/
def request
    (cache : HierarchyCache)
    (groupSet : GroupSet) :
    Except HierarchyError Hierarchy × HierarchyCache :=
  match cache.recent.find? groupSet.version with
  | some hierarchy =>
      (.ok hierarchy,
        { cache with recent := cache.recent.store groupSet.version hierarchy })
  | none =>
      match groupSet.validate cache.limits with
      | .ok hierarchy =>
          (.ok hierarchy,
            { cache with recent := cache.recent.store groupSet.version hierarchy })
      | .error error =>
          (.error error, cache)

/-- Drop the hierarchy of one version. -/
def invalidate
    (cache : HierarchyCache)
    (version : String) :
    HierarchyCache :=
  { cache with recent := cache.recent.remove version }

/-- Drop all hierarchies. -/
def clear (cache : HierarchyCache) : HierarchyCache :=
  { cache with recent := cache.recent.clear }

end HierarchyCache

end FleetConfig
