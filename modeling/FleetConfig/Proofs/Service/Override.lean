import FleetConfig.Proofs.Classification.Override
import FleetConfig.Proofs.Service.Members
import FleetConfig.Proofs.Service.Revision

/-!
# Classification when an ancestor drops a key

Deeper groups override their ancestors.  When a node belongs to a group and to one of
its ancestors, and the group sets a key, the ancestor may as well not set it: all that
a classification tells stays the same, except for the conflicts.
-/

namespace FleetConfig

/-- Results agree on everything but the conflicts, the version and the digest. -/
structure ResolvedConfiguration.AgreesButConflicts
    (resolved other : ResolvedConfiguration) :
    Prop where
  certname : resolved.certname = other.certname
  environment? : resolved.environment? = other.environment?
  groups : resolved.groups = other.groups
  classes : resolved.classes = other.classes
  parameters : resolved.parameters = other.parameters
  globals : resolved.globals = other.globals
  errors : resolved.errors = other.errors

namespace Direct

variable {settings : Settings}
  {node : Node}
  {groupSet other : GroupSet}
  {id : String}
  {scope : ConflictScope}
  {key : String}

/-- Dropping a key changes neither the outline nor who belongs to the groups. -/
theorem revises_of_droppingIf
    (dropped : other.groups = groupSet.groups.map (Group.droppingIf id scope key)) :
    Revises settings node other groupSet (Group.droppingIf id scope key)
      fun _ membership => membership := by
  constructor
  case groups =>
    exact dropped
  case sameId =>
    exact fun group _ => group.id_droppingIf id scope key
  case sameOutline =>
    unfold GroupSet.outline
    rw [dropped, List.map_map]
    refine List.map_congr_left fun group _ => ?_
    obtain ⟨_, _, shape, _⟩ := group.exists_droppingIf id scope key
    rw [Function.comp_apply, shape]
  case membership =>
    intro group _
    obtain ⟨_, _, shape, _⟩ := group.exists_droppingIf id scope key
    rw [shape]
    change membership settings node group = _
    cases membership settings node group <;> rfl
  case sameReason =>
    exact fun _ _ => rfl

/-- The groups to be merged are different groups of the set, all to which the node belongs. -/
theorem matched_of_examine
    (sound : groupSet.parents.Sound)
    {examined : List Engine.Examined}
    (given :
      examine settings node groupSet.hierarchy groupSet.ordered = .ok examined) :
    (matched examined).Nodup ∧
      matched examined ⊆ groupSet.groups ∧
      ∀ group ∈ groupSet.groups,
        Belongs settings node group → group ∈ matched examined := by
  obtain ⟨verdict, decided⟩ := exists_verdict (judged_of_examine given)
  have permuted := GroupSet.ordered_perm sound
  have found : examined = findings groupSet.hierarchy verdict groupSet.ordered :=
    Except.ok.inj (given.symm.trans (examine_eq_ok groupSet.hierarchy decided))
  rw [found, matched_findings]
  refine ⟨(permuted.nodup_iff.mpr (GroupSet.nodup_groups sound)).filter _,
    fun group listed => permuted.subset (List.mem_of_mem_filter listed), ?_⟩
  intro group member belongs
  have listed := permuted.mem_iff.mpr member
  exact List.mem_filter.mpr
    ⟨listed, (belongs_iff (decided group listed)).mp belongs⟩

/-- Dropping a key that a descendant sets is not seen in the result. -/
theorem configuration_droppingIf
    (version otherVersion : String)
    (examined : List Engine.Examined)
    {merged otherMerged : Merged}
    (agrees : merged.AgreesButConflicts otherMerged) :
    (configuration node version examined merged).AgreesButConflicts
      (configuration node otherVersion
        (examined.map
          (revisedFinding (Group.droppingIf id scope key) fun _ membership =>
            membership))
        otherMerged) := by
  constructor
  case certname =>
    rfl
  case environment? =>
    exact agrees.environment?
  case groups =>
    change List.filterMap _ _ = List.filterMap _ _
    rw [List.filterMap_map]
    refine List.filterMap_congr ?_
    rintro ⟨group, depth, membership⟩ _
    obtain ⟨_, _, shape, _⟩ := group.exists_droppingIf id scope key
    rw [Function.comp_apply, revisedFinding, shape]
    rfl
  case classes =>
    exact agrees.classes
  case parameters =>
    exact agrees.parameters
  case globals =>
    exact agrees.globals
  case errors =>
    change List.flatMap _ _ = List.flatMap _ _
    rw [List.flatMap_map]
    rfl

/--
A classification fails alike when an ancestor drops a key that a descendant sets, unless
the groups could not be merged; if it succeeds, the results agree but for the conflicts.
-/
theorem classify_droppingIf_cases
    {hierarchy : Hierarchy}
    (accepted : groupSet.validate (Engine.limits settings) = .ok hierarchy)
    {descendant : Group}
    (member : descendant ∈ groupSet.groups)
    (belongs : Belongs settings node descendant)
    (notEnvironment : scope ≠ .environment)
    (sets : ∃ value, descendant.Proposes scope key value)
    (above : groupSet.parents.HasAncestor descendant.id id)
    (dropped : other.groups = groupSet.groups.map (Group.droppingIf id scope key)) :
    (∃ failure,
        classify settings node groupSet = .error failure ∧
          ((∃ error, failure = .merge error) ∨
            classify settings node other = .error failure)) ∨
      ∃ resolved otherResolved,
        classify settings node groupSet = .ok resolved ∧
          classify settings node other = .ok otherResolved ∧
          resolved.AgreesButConflicts otherResolved := by
  have sound := GroupSet.sound_of_validate accepted
  have revises :
      Revises settings node other groupSet (Group.droppingIf id scope key)
        fun _ membership => membership :=
    revises_of_droppingIf dropped
  cases found : examine settings node groupSet.hierarchy groupSet.ordered with
  | error failure =>
      exact .inl ⟨failure, classify_of_examine_error accepted found,
        .inr (revises.classify_of_examine_error accepted found)⟩
  | ok examined =>
      obtain ⟨distinct, members, matching⟩ := matched_of_examine sound found
      rw [classify_of_examine accepted found,
        revises.classify_of_examine accepted found]
      cases merges :
          mergeGroups (matched examined) groupSet.hierarchy node.environment? with
      | error error =>
          exact .inl ⟨.merge error, rfl, .inl ⟨error, rfl⟩⟩
      | ok merged =>
          obtain ⟨otherMerged, otherMerges, agrees⟩ :=
            PlacedGroup.mergeGroups_droppingIf sound distinct members
              notEnvironment (matching descendant member belongs) above sets
              (GroupSet.depth?_eq_of_outline_eq revises.sameOutline) merges
          rw [otherMerges]
          exact .inr ⟨_, _, rfl, rfl, configuration_droppingIf _ _ examined agrees⟩

end Direct

/--
A node belongs to a group of an accepted set, and the group sets a key in its
parameters, or in its global variables.  When an ancestor of the group drops the key, a
classification that succeeds still does and agrees on everything but the conflicts.
One that fails fails the same, unless the groups could not be merged; with text keys,
and when all groups are decided on, it succeeds.
-/
theorem Engine.classify_droppingIf
    {settings : Settings}
    {node : Node}
    {groupSet other : GroupSet}
    {hierarchy : Hierarchy}
    {engine otherEngine : Engine}
    (trueTo : engine.TrueTo settings groupSet)
    (otherTrueTo : otherEngine.TrueTo settings other)
    (accepted : groupSet.validate (Engine.limits settings) = .ok hierarchy)
    {descendant : Group}
    (member : descendant ∈ groupSet.groups)
    (belongs : Direct.Belongs settings node descendant)
    {scope : ConflictScope}
    (isMap : scope = .parameters ∨ scope = .globals)
    {key : String}
    (sets : ∃ value, descendant.Proposes scope key value)
    {ancestor : String}
    (above : ancestor ∈ hierarchy.ancestors descendant.id)
    (dropped :
      other.groups = groupSet.groups.map (Group.droppingIf ancestor scope key)) :
    (∀ resolved,
        (engine.run (classify settings node groupSet)).1 = .ok resolved →
        ∃ otherResolved,
          (otherEngine.run (classify settings node other)).1 =
              .ok otherResolved ∧
            resolved.AgreesButConflicts otherResolved) ∧
      (∀ failure,
        (engine.run (classify settings node groupSet)).1 = .error failure →
        (∃ error, failure = .merge error) ∨
          (otherEngine.run (classify settings node other)).1 =
            .error failure) ∧
      ((∀ group ∈ groupSet.groups, ∃ membership,
          Direct.membership settings node group = .ok membership) →
        (∀ group ∈ groupSet.groups, group.HasTextKeys) →
        ∃ resolved,
          (engine.run (classify settings node groupSet)).1 = .ok resolved) := by
  have notEnvironment : scope ≠ .environment := by
    rcases isMap with rfl | rfl <;> exact nofun
  have isAbove : groupSet.parents.HasAncestor descendant.id ancestor := by
    rw [GroupSet.hierarchy_of_validate accepted] at above
    exact Parents.hasAncestor_of_mem_ancestorsWithin above
  have outcomes :=
    Direct.classify_droppingIf_cases accepted member belongs notEnvironment sets
      isAbove dropped
  rw [trueTo.run_classify, otherTrueTo.run_classify]
  refine ⟨?_, ?_, Direct.exists_classify accepted⟩
  · intro resolved given
    rcases outcomes with
        ⟨failure, fails, _⟩ | ⟨found, otherFound, isFound, otherIsFound, agrees⟩
    · rw [fails] at given
      contradiction
    · rw [isFound] at given
      cases given
      exact ⟨otherFound, otherIsFound, agrees⟩
  · intro failure fails
    rcases outcomes with ⟨other, otherFails, alike⟩ | ⟨found, _, isFound, _, _⟩
    · rw [otherFails] at fails
      cases fails
      exact alike
    · rw [isFound] at fails
      contradiction

namespace Sample

/-- The sample with a root that leaves the port to its children. -/
def portless : GroupSet :=
  ⟨groupSet.groups.map (Group.droppingIf "base" .parameters "port"), "v2"⟩

theorem web_belongs :
    Direct.Belongs {} node web :=
  ⟨_, by cbv, rfl⟩

end Sample

/-- The root of the sample drops the port, which a child that the node belongs to sets. -/
theorem Engine.classify_droppingIf_sample :
    ∃ resolved otherResolved,
      ((fresh {} .zero).run (classify {} Sample.node Sample.groupSet)).1 =
          .ok resolved ∧
        ((fresh {} .zero).run (classify {} Sample.node Sample.portless)).1 =
          .ok otherResolved ∧
        resolved.AgreesButConflicts otherResolved := by
  have ancestors :
      Sample.groupSet.hierarchy.ancestors Sample.web.id = ["base"] := by
    cbv
  have above : "base" ∈ Sample.groupSet.hierarchy.ancestors Sample.web.id := by
    rw [ancestors]
    exact List.mem_singleton_self "base"
  obtain ⟨agree, -, exists_resolved⟩ :=
    Engine.classify_droppingIf (trueTo_fresh {} .zero Sample.groupSet)
      (trueTo_fresh {} .zero Sample.portless) Sample.accepted
      (List.mem_cons_self : Sample.web ∈ Sample.groupSet.groups)
      Sample.web_belongs (.inl rfl) ⟨.integer 8080, .parameter rfl⟩ above rfl
  obtain ⟨resolved, given⟩ :=
    exists_resolved
      (fun _ member =>
        Direct.exists_membership {} Sample.node (Sample.patternsSettle member))
      fun _ member => Sample.hasTextKeys member
  obtain ⟨otherResolved, otherGiven, agrees⟩ := agree resolved given
  exact ⟨resolved, otherResolved, given, otherGiven, agrees⟩

end FleetConfig
