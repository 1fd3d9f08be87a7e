import FleetConfig.Proofs.Hierarchy.Rearrangement
import FleetConfig.Proofs.Service.Classification

/-!
# Classification of rearranged groups

The order in which groups are given does not show in a classification: it is
rejected for the same defect, or it finds the same.  Only the version tells the
results apart, and with one version given for both they are the same.
-/

namespace FleetConfig

/-- Results agree on everything but the version and the digest. -/
structure ResolvedConfiguration.Agrees
    (resolved other : ResolvedConfiguration) :
    Prop where
  certname : resolved.certname = other.certname
  environment? : resolved.environment? = other.environment?
  groups : resolved.groups = other.groups
  classes : resolved.classes = other.classes
  parameters : resolved.parameters = other.parameters
  globals : resolved.globals = other.globals
  conflicts : resolved.conflicts = other.conflicts
  errors : resolved.errors = other.errors

namespace Direct

variable {settings : Settings} {node : Node} {groupSet other : GroupSet}

theorem configuration_agrees
    (node : Node)
    (version otherVersion : String)
    (examined : List Engine.Examined)
    (merged : Merged) :
    (configuration node version examined merged).Agrees
      (configuration node otherVersion examined merged) :=
  ⟨rfl, rfl, rfl, rfl, rfl, rfl, rfl, rfl⟩

theorem classify_eq_error
    (within : groupSet.excess? (Engine.limits settings) = none)
    {defect : HierarchyDefect}
    (found : groupSet.parents.defect? = some defect) :
    classify settings node groupSet = .error (.rejected (.defect defect)) := by
  unfold classify GroupSet.validate
  rw [within, found]
  rfl

theorem classify_eq_resolve
    (within : groupSet.excess? (Engine.limits settings) = none)
    (noDefect : groupSet.parents.defect? = none) :
    classify settings node groupSet =
      resolve settings node groupSet groupSet.hierarchy := by
  unfold classify GroupSet.validate
  rw [within, noDefect]
  rfl

/-- Rearranged groups without a defect are resolved to the same, up to the version. -/
theorem resolve_of_perm
    (permuted : groupSet.groups.Perm other.groups)
    (noDefect : groupSet.parents.defect? = none)
    {verdict : Group → Membership}
    (judged :
      ∀ group ∈ groupSet.groups,
        Direct.membership settings node group = .ok (verdict group))
    (textKeys : ∀ group ∈ groupSet.groups, group.HasTextKeys) :
    ∃ examined merged,
      resolve settings node groupSet groupSet.hierarchy =
          .ok (configuration node groupSet.version examined merged) ∧
        resolve settings node other other.hierarchy =
          .ok (configuration node other.version examined merged) := by
  have sound := Parents.sound_of_defect?_eq_none noDefect
  have otherSound : other.parents.Sound := by
    rw [Parents.defect?_eq_of_perm (GroupSet.parents_perm permuted)]
      at noDefect
    exact Parents.sound_of_defect?_eq_none noDefect
  have members : ∀ group ∈ other.groups, group ∈ groupSet.groups :=
    fun group member => permuted.mem_iff.mpr member
  obtain ⟨placed, lists, _, resolves⟩ :=
    resolve_eq_ok sound judged textKeys
  obtain ⟨otherPlaced, otherLists, _, otherResolves⟩ :=
    resolve_eq_ok otherSound
      (fun group member => judged group (members group member))
      (fun group member => textKeys group (members group member))
  have samePlaced : otherPlaced = placed :=
    otherLists.eq_of_mem_iff lists
      (fun _ => (permuted.filter _).symm.mem_iff)
      (Parents.hasDepth_iff_of_perm (GroupSet.parents_perm permuted.symm))
  have sameFindings :
      findings other.hierarchy verdict other.ordered =
        findings groupSet.hierarchy verdict groupSet.ordered := by
    unfold findings
    simp only [GroupSet.ordered_eq_of_perm sound otherSound permuted,
      GroupSet.place_eq_of_perm sound otherSound permuted]
  rw [samePlaced, sameFindings] at otherResolves
  exact ⟨_, _, resolves, otherResolves⟩

end Direct

theorem GroupSet.version_ofGroups
    (groups : List Group)
    {version : String}
    (notEmpty : version ≠ "") :
    (GroupSet.ofGroups groups version).version = version := by
  unfold GroupSet.ofGroups
  rw [String.isEmpty_eq_false_iff.mpr notEmpty]
  rfl

/-- What a fresh engine gives for a node under groups and a version. -/
def Engine.outcome
    (settings : Settings)
    (meters : Meters)
    (node : Node)
    (groups : List Group)
    (version : String) :
    Except Failure ResolvedConfiguration :=
  ((Engine.fresh settings meters).run
    (Engine.classify settings node (.ofGroups groups version))).1

/--
Rearranging groups that exceed no limit leaves the defect for which they are
rejected or the classification of every node as it is.
-/
theorem Engine.outcome_of_perm
    {settings : Settings}
    {node : Node}
    {groups others : List Group}
    (permuted : groups.Perm others)
    (version otherVersion : String)
    (within :
      (GroupSet.ofGroups groups version).excess? (Engine.limits settings) =
        none)
    (judged :
      ∀ group ∈ groups, ∃ membership,
        Direct.membership settings node group = .ok membership)
    (textKeys : ∀ group ∈ groups, group.HasTextKeys)
    (meters otherMeters : Meters) :
    (∃ defect,
        Engine.outcome settings meters node groups version =
            .error (.rejected (.defect defect)) ∧
          Engine.outcome settings otherMeters node others otherVersion =
            .error (.rejected (.defect defect))) ∨
      ∃ resolved other,
        Engine.outcome settings meters node groups version =
            .ok resolved ∧
          Engine.outcome settings otherMeters node others otherVersion =
            .ok other ∧
          resolved.Agrees other ∧
          (version = otherVersion →
            version ≠ "" →
            resolved.provenance = other.provenance) := by
  have perm :
      (GroupSet.ofGroups groups version).groups.Perm
        (GroupSet.ofGroups others otherVersion).groups :=
    permuted
  have otherWithin := GroupSet.excess?_eq_none_of_perm perm within
  have sameDefect :=
    Parents.defect?_eq_of_perm (GroupSet.parents_perm perm)
  unfold Engine.outcome
  rw [Engine.run_classify_fresh, Engine.run_classify_fresh]
  cases found : (GroupSet.ofGroups groups version).parents.defect? with
  | some defect =>
      left
      rw [found] at sameDefect
      exact ⟨defect, Direct.classify_eq_error within found,
        Direct.classify_eq_error otherWithin sameDefect.symm⟩
  | none =>
      right
      rw [found] at sameDefect
      obtain ⟨verdict, decided⟩ := Direct.exists_verdict judged
      obtain ⟨examined, merged, resolves, otherResolves⟩ :=
        Direct.resolve_of_perm perm found decided textKeys
      rw [Direct.classify_eq_resolve within found,
        Direct.classify_eq_resolve otherWithin sameDefect.symm]
      refine ⟨_, _, resolves, otherResolves,
        Direct.configuration_agrees node _ _ examined merged, ?_⟩
      rintro rfl notEmpty
      rw [GroupSet.version_ofGroups groups notEmpty,
        GroupSet.version_ofGroups others notEmpty]

/-- The groups of the sample, turned around, classify its node the same. -/
theorem Engine.outcome_of_perm_sample :
    (∃ defect,
        Engine.outcome {} .zero Sample.node Sample.groupSet.groups "v1" =
            .error (.rejected (.defect defect)) ∧
          Engine.outcome {} .zero Sample.node
              Sample.groupSet.groups.reverse "v1" =
            .error (.rejected (.defect defect))) ∨
      ∃ resolved other,
        Engine.outcome {} .zero Sample.node Sample.groupSet.groups "v1" =
            .ok resolved ∧
          Engine.outcome {} .zero Sample.node
              Sample.groupSet.groups.reverse "v1" =
            .ok other ∧
          resolved.Agrees other ∧
          ("v1" = "v1" →
            "v1" ≠ "" →
            resolved.provenance = other.provenance) :=
  Engine.outcome_of_perm (List.reverse_perm _).symm "v1" "v1"
    (GroupSet.validate_eq_ok_iff.mp Sample.accepted).1
    (fun _ member =>
      Direct.exists_membership {} Sample.node
        (Sample.patternsSettle member))
    (fun _ member => Sample.hasTextKeys member) .zero .zero

end FleetConfig
