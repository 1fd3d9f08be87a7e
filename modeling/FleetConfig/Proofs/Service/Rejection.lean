import FleetConfig.Proofs.Hierarchy.Validation
import FleetConfig.Proofs.Service.Conversation

/-!
# Requests for defective group sets

A task for a group set with a defective structure is refused, unless the service
holds a hierarchy under the version of that group set.  It holds one only after
an accepted group set with the same version; then the task goes by the hierarchy
of that one, and nothing reports the defect.  It makes no difference whether nodes
are classified in turn or side by side, now or before.
-/

namespace FleetConfig

/-- An identifier occurs twice, a parent is not there or a group is its own ancestor. -/
def GroupSet.Defective (groupSet : GroupSet) : Prop :=
  ¬ groupSet.ids.Nodup ∨
    ¬ groupSet.KnowsParents ∨
    ∃ id, groupSet.parents.HasAncestor id id

/-- No limits let a defective group set pass. -/
theorem GroupSet.Defective.exists_validate_eq_error
    {groupSet : GroupSet}
    (defective : groupSet.Defective)
    (limits : CapacityLimits) :
    ∃ error, groupSet.validate limits = .error error := by
  cases validated : groupSet.validate limits with
  | error error =>
      exact ⟨error, rfl⟩
  | ok hierarchy =>
      obtain ⟨_, distinct, known, acyclic⟩ :=
        exists_validate_eq_ok_iff.mp ⟨hierarchy, validated⟩
      rcases defective with repeated | unknown | ⟨id, above⟩
      · exact absurd distinct repeated
      · exact absurd known unknown
      · exact absurd above (acyclic id)

/-- What validation rejects is refused by itself, whatever the task is. -/
theorem Direct.respond_of_rejected
    {settings : Settings}
    {groupSet : GroupSet}
    {error : HierarchyError}
    (rejected :
      groupSet.validate (Engine.limits settings) = .error error)
    (task : Task) :
    Direct.respond settings (.work task (.valid groupSet)) =
      .error (.failed (.rejected error)) := by
  simp only [Direct.respond, rejected]
  rfl

namespace Service

/-- The hierarchy that a service holds under the version of a group set. -/
def held?
    (service : Service)
    (groupSet : GroupSet) :
    Option Hierarchy :=
  service.engine.hierarchies.recent.find? groupSet.version

namespace Serves

variable {service : Service} {settings : Settings} {groupSets : List GroupSet}

/-- A task goes by a hierarchy that is held, or by validation if there is none. -/
theorem respond_work
    (serves : service.Serves settings groupSets)
    (task : Task)
    (groupSet : GroupSet) :
    (service.respond (.work task (.valid groupSet))).1 =
      match service.held? groupSet with
      | some hierarchy =>
          (Direct.answer settings task groupSet hierarchy).mapError .failed
      | none =>
          Direct.respond settings (.work task (.valid groupSet)) := by
  have given := (work_consults serves.sound task groupSet).1
  rw [serves.sameSettings] at given
  refine (congrArg (Except.mapError RequestFailure.failed) given).trans ?_
  unfold held?
  cases found : service.engine.hierarchies.recent.find? groupSet.version with
  | some hierarchy =>
      rw [HierarchyCache.request_of_find?_eq_some found]
      rfl
  | none =>
      rw [HierarchyCache.request_of_find?_eq_none found, serves.sameLimits]
      rfl

end Serves

/--
After any conversation a task for a defective group set is refused for what
validation finds, unless a hierarchy is held under its version.  That is then the
hierarchy of an accepted group set which was presented before under the same
version, and the task goes by it.
-/
theorem comesTo_defective
    {settings : Settings}
    {meters : Meters}
    {exchanges : List Exchange}
    {last : Service}
    (converses : (create settings meters).Converses exchanges last)
    (task : Task)
    {groupSet : GroupSet}
    (defective : groupSet.Defective) :
    (last.held? groupSet = none →
        ∃ error,
          groupSet.validate (Engine.limits settings) = .error error ∧
            last.ComesTo (.work task (.valid groupSet))
              (.error (.failed (.rejected error)))) ∧
      ∀ hierarchy,
        last.held? groupSet = some hierarchy →
          (∃ earlier ∈ presentedIn exchanges,
              earlier.GivesUnder (Engine.limits settings)
                groupSet.version hierarchy) ∧
            last.ComesTo (.work task (.valid groupSet))
              ((Direct.answer settings task groupSet hierarchy).mapError
                .failed) := by
  have created :
      Reachable settings (presentedIn exchanges) (create settings meters) :=
    .created meters
  have serves := (created.converses (List.Subset.refl _) converses).serves
  have comes := comesTo_respond serves.sound (.work task (.valid groupSet))
  rw [serves.respond_work task groupSet] at comes
  constructor
  · intro notHeld
    obtain ⟨error, rejected⟩ :=
      defective.exists_validate_eq_error (Engine.limits settings)
    rw [notHeld] at comes
    simp only [Direct.respond_of_rejected rejected] at comes
    exact ⟨error, rejected, comes⟩
  · intro hierarchy isHeld
    rw [isHeld] at comes
    have remembered := serves.remembers.exists_of_find? isHeld
    rw [serves.sameLimits] at remembered
    exact ⟨remembered, comes⟩

end Service

namespace Sample

/-- A single root. -/
def single (version : String) : GroupSet :=
  ⟨[Group.empty "x"], version⟩

/-- A group that is its own parent. -/
def loop (version : String) : GroupSet :=
  ⟨[childOf "x" "x"], version⟩

theorem loop_defective
    (version : String) :
    (loop version).Defective := by
  have links : (loop version).parents.Links "x" "x" := by
    simp [Parents.Links, GroupSet.parents, loop, childOf, Group.empty]
  exact .inr (.inr ⟨"x", .single links⟩)

/-- A request to validate the single root. -/
def presentSingle : List Request :=
  [.work .validate (.valid (single "v1"))]

end Sample

namespace Service

/-- An accepted group set under another version does not let a loop pass. -/
theorem comesTo_defective_loop :
    ∃ exchanges last error,
      (create Sample.team .zero).Converses exchanges last ∧
        exchanges.map (·.request) = Sample.presentSingle ∧
        (Sample.loop "v2").Defective ∧
        (Sample.loop "v2").validate (Engine.limits Sample.team) =
          .error error ∧
        last.ComesTo
          (.work (.classifyMany [Sample.node, Sample.node])
            (.valid (Sample.loop "v2")))
          (.error (.failed (.rejected error))) := by
  have converses :=
    converses_respondAll (create Sample.team .zero) Sample.presentSingle
  have notHeld :
      ((create Sample.team .zero).respondAll Sample.presentSingle).2.held?
          (Sample.loop "v2") =
        none := by
    cbv
  obtain ⟨error, rejected, comes⟩ :=
    (comesTo_defective converses (.classifyMany [Sample.node, Sample.node])
      (Sample.loop_defective "v2")).1 notHeld
  exact ⟨_, _, error, converses, rfl, Sample.loop_defective "v2", rejected,
    comes⟩

/-- An accepted group set under the same version lets a loop pass. -/
theorem comesTo_loop_after_single :
    ∃ exchanges last,
      (create {} .zero).Converses exchanges last ∧
        exchanges.map (·.request) = Sample.presentSingle ∧
        (Sample.loop "v1").Defective ∧
        last.ComesTo (.work .validate (.valid (Sample.loop "v1")))
          (.ok (.hierarchy (Sample.single "v1").hierarchy)) := by
  have converses :=
    converses_respondAll (create {} .zero) Sample.presentSingle
  have created :
      Reachable {} (Request.allGroupSets Sample.presentSingle)
        (create {} .zero) :=
    .created .zero
  have serves :=
    (created.converses (List.Subset.refl _) converses).serves
  have comes :=
    comesTo_respond serves.sound
      (.work .validate (.valid (Sample.loop "v1")))
  have passes :
      (((create {} .zero).respondAll Sample.presentSingle).2.respond
          (.work .validate (.valid (Sample.loop "v1")))).1 =
        .ok (.hierarchy (Sample.single "v1").hierarchy) := by
    cbv
  rw [passes] at comes
  exact ⟨_, _, converses, rfl, Sample.loop_defective "v1", comes⟩

end Service

end FleetConfig
