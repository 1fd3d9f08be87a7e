import FleetConfig.Hierarchy.Cache
import FleetConfig.Proofs.Hierarchy.Revision
import FleetConfig.Proofs.RecencyCache

/-!
# What the cache of hierarchies stands for

A cache remembers group sets if every hierarchy in it is what validating one of
them gives, under the version of that group set.  Requests keep this up.  Where a
version names its groups, what a request gives is what validation gives; where
it does not, a request may give the hierarchy of another group set.
-/

namespace FleetConfig

/--
Group sets under one version agree in all that validation looks at.  This is less
than to hold equal groups: their payload may be in another order, or another one.
-/
def GroupSet.VersionsIdentify (groupSets : List GroupSet) : Prop :=
  ∀ first ∈ groupSets, ∀ second ∈ groupSets,
    first.version = second.version → first.outline = second.outline

/-- Validation accepts a group set with this hierarchy, and its version is known. -/
structure GroupSet.GivesUnder
    (groupSet : GroupSet)
    (limits : CapacityLimits)
    (version : String)
    (hierarchy : Hierarchy) :
    Prop where
  version : groupSet.version = version
  accepted : groupSet.validate limits = .ok hierarchy

namespace HierarchyCache

/-- Every hierarchy in a cache is that of one of the group sets, under its version. -/
def Remembers
    (cache : HierarchyCache)
    (groupSets : List GroupSet) :
    Prop :=
  cache.recent.Every fun version hierarchy =>
    ∃ groupSet ∈ groupSets,
      groupSet.GivesUnder cache.limits version hierarchy

/-- An empty cache remembers whatever group sets there are. -/
theorem remembers_ofSize
    (size : Int)
    (limits : CapacityLimits)
    (groupSets : List GroupSet) :
    (HierarchyCache.ofSize size limits).Remembers groupSets :=
  RecencyCache.every_ofSize _ size

variable {cache : HierarchyCache} {groupSets : List GroupSet}

theorem remembers_clear
    (cache : HierarchyCache)
    (groupSets : List GroupSet) :
    cache.clear.Remembers groupSets :=
  RecencyCache.every_clear _ cache.recent

theorem limits_request
    (cache : HierarchyCache)
    (groupSet : GroupSet) :
    (cache.request groupSet).2.limits = cache.limits := by
  unfold request
  split
  · rfl
  · split <;> rfl

/-- Without an entry for its version the group set is validated. -/
theorem request_of_find?_eq_none
    {groupSet : GroupSet}
    (absent : cache.recent.find? groupSet.version = none) :
    (cache.request groupSet).1 = groupSet.validate cache.limits := by
  unfold request
  rw [absent]
  cases groupSet.validate cache.limits <;> rfl

/-- An entry for its version stands for the group set, whatever its groups are. -/
theorem request_of_find?_eq_some
    {groupSet : GroupSet}
    {hierarchy : Hierarchy}
    (found : cache.recent.find? groupSet.version = some hierarchy) :
    (cache.request groupSet).1 = .ok hierarchy := by
  unfold request
  rw [found]

namespace Remembers

/-- An entry for a version comes from an accepted group set under that version. -/
theorem exists_of_find?
    (remembers : cache.Remembers groupSets)
    {version : String}
    {hierarchy : Hierarchy}
    (found : cache.recent.find? version = some hierarchy) :
    ∃ groupSet ∈ groupSets,
      groupSet.GivesUnder cache.limits version hierarchy :=
  RecencyCache.Every.find? remembers found

/-- A cache that remembers group sets goes on to do so when one of them is asked for. -/
theorem request
    (remembers : cache.Remembers groupSets)
    {groupSet : GroupSet}
    (member : groupSet ∈ groupSets) :
    (cache.request groupSet).2.Remembers groupSets := by
  unfold HierarchyCache.request
  cases found : cache.recent.find? groupSet.version with
  | some hierarchy =>
      exact RecencyCache.Every.store remembers
        (remembers.exists_of_find? found)
  | none =>
      cases validated : groupSet.validate cache.limits with
      | ok hierarchy =>
          exact RecencyCache.Every.store remembers
            ⟨groupSet, member, rfl, validated⟩
      | error error =>
          exact remembers

/-- Where versions name their groups, a request gives what validation gives. -/
theorem request_eq_validate
    (remembers : cache.Remembers groupSets)
    (identify : GroupSet.VersionsIdentify groupSets)
    {groupSet : GroupSet}
    (member : groupSet ∈ groupSets) :
    (cache.request groupSet).1 = groupSet.validate cache.limits := by
  cases found : cache.recent.find? groupSet.version with
  | none =>
      exact request_of_find?_eq_none found
  | some hierarchy =>
      obtain ⟨earlier, earlierMember, gives⟩ := remembers.exists_of_find? found
      -- The entry may come from another group set, but that one has the same outline.
      have sameOutline :=
        identify groupSet member earlier earlierMember gives.version.symm
      rw [request_of_find?_eq_some found,
        GroupSet.validate_congr sameOutline gives.version.symm, gives.accepted]

end Remembers

end HierarchyCache

end FleetConfig
