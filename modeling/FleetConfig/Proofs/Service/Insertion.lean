import FleetConfig.Proofs.Classification.Revision
import FleetConfig.Proofs.Hierarchy.Insertion
import FleetConfig.Proofs.Service.Rearrangement
import FleetConfig.Proofs.Service.Members

/-!
# Classification with a group that is added

A group that a node does not belong to has no say in what the groups of the node
set.  Where it is added, the classification stays the same, with the depths of all
groups and the conflicts between them; only the problems of the group's own rules
are told as well.
-/

namespace FleetConfig

/-- Results agree on everything but the problems, the version and the digest. -/
structure ResolvedConfiguration.AgreesButErrors
    (resolved other : ResolvedConfiguration) :
    Prop where
  certname : resolved.certname = other.certname
  environment? : resolved.environment? = other.environment?
  groups : resolved.groups = other.groups
  classes : resolved.classes = other.classes
  parameters : resolved.parameters = other.parameters
  globals : resolved.globals = other.globals
  conflicts : resolved.conflicts = other.conflicts

namespace Direct

section

variable {settings : Settings}
  {node : Node}
  {groupSet extended : GroupSet}
  {group : Group}
  {verdict : Group → Membership}

/-- The findings on the group that is added come in between those on the others. -/
theorem exists_findings_of_adds
    (adds : extended.Adds groupSet group)
    (sound : groupSet.parents.Sound)
    (verdict : Group → Membership) :
    ∃ earlier later depth,
      findings groupSet.hierarchy verdict groupSet.ordered = earlier ++ later ∧
        findings extended.hierarchy verdict extended.ordered =
          earlier ++ (group, depth, verdict group) :: later := by
  obtain ⟨earlier, later, shape, extendedShape⟩ := adds.exists_ordered sound
  have sameFindings :
      ∀ {groups : List Group},
        groups ⊆ groupSet.ordered →
          findings extended.hierarchy verdict groups =
            findings groupSet.hierarchy verdict groups := by
    intro groups listed
    unfold findings
    refine List.map_congr_left fun other member => ?_
    rw [adds.place_eq sound ((GroupSet.ordered_perm sound).subset (listed member))]
  refine ⟨findings groupSet.hierarchy verdict earlier,
    findings groupSet.hierarchy verdict later,
    (extended.hierarchy.place group.id).1, ?_, ?_⟩
  · rw [shape]
    exact List.map_append
  · rw [extendedShape, ← sameFindings (by simp [shape]),
      ← sameFindings (by simp [shape])]
    exact List.map_append

/--
Where a group is added to which the node does not belong, the same groups are merged
at the same depths.
-/
theorem mergeGroups_of_adds
    (adds : extended.Adds groupSet group)
    (sound : groupSet.parents.Sound)
    (apart : (verdict group).holds = false)
    (reported? : Option String) :
    mergeGroups
        (extended.ordered.filter fun other => (verdict other).holds)
        extended.hierarchy reported? =
      mergeGroups
        (groupSet.ordered.filter fun other => (verdict other).holds)
        groupSet.hierarchy reported? := by
  obtain ⟨earlier, later, shape, extendedShape⟩ := adds.exists_ordered sound
  have sameGroups :
      extended.ordered.filter (fun other => (verdict other).holds) =
        groupSet.ordered.filter fun other => (verdict other).holds := by
    rw [shape, extendedShape, List.filter_append, List.filter_append,
      List.filter_cons_of_neg (by simp [apart])]
  have sameDepth :
      ∀ other ∈ groupSet.ordered.filter fun other => (verdict other).holds,
        extended.hierarchy.depth? other.id = groupSet.hierarchy.depth? other.id := by
    intro other listed
    have member := (GroupSet.ordered_perm sound).subset (List.mem_of_mem_filter listed)
    exact adds.depth?_eq sound member
  rw [sameGroups]
  have setLike :
      ∀ other ∈ groupSet.ordered.filter fun other => (verdict other).holds,
        (id other).SetsLike other :=
    fun _ _ => ⟨rfl, rfl, rfl, rfl, rfl, rfl⟩
  have same := PlacedGroup.mergeGroups_map setLike sameDepth reported?
  rwa [List.map_id] at same

/--
What is found out about a group that the node does not belong to adds the problems of
that group to a result, and nothing else.
-/
theorem configuration_append_cons
    (node : Node)
    {membership : Membership}
    (apart : membership.holds = false)
    (version otherVersion : String)
    (earlier later : List Engine.Examined)
    (depth : Nat)
    (merged : Merged) :
    let resolved := configuration node version (earlier ++ later) merged
    let other :=
      configuration node otherVersion
        (earlier ++ (group, depth, membership) :: later) merged
    resolved.AgreesButErrors other ∧
      ∃ before after,
        resolved.errors = before ++ after ∧
          other.errors = before ++ membership.errors ++ after := by
  have noMatch : Engine.match? (group, depth, membership) = none := by
    have noReason : membership.reason? = none := by
      simpa [Membership.holds] using apart
    simp [Engine.match?, noReason]
  refine ⟨⟨rfl, rfl, ?_, rfl, rfl, rfl, rfl⟩, _, _, List.flatMap_append, ?_⟩
  · change List.filterMap _ _ = List.filterMap _ _
    rw [List.filterMap_append, List.filterMap_append,
      List.filterMap_cons_none noMatch]
  · change List.flatMap _ _ = _
    rw [List.flatMap_append, List.flatMap_cons, List.append_assoc]

end

end Direct

/--
A group to which a node does not belong is added anywhere among the groups of an
accepted set, and no limit is exceeded.  Classifying the node still fails for the same
reason when the groups cannot be merged.  Otherwise, as with text keys, it still gives
the same, and the problems of the group's own rules come in between the others.
-/
theorem Engine.classify_adds
    {settings : Settings}
    {node : Node}
    {groupSet extended : GroupSet}
    {group : Group}
    {hierarchy : Hierarchy}
    {engine other : Engine}
    (trueTo : engine.TrueTo settings groupSet)
    (otherTrueTo : other.TrueTo settings extended)
    (accepted : groupSet.validate (Engine.limits settings) = .ok hierarchy)
    (adds : extended.Adds groupSet group)
    (within : extended.excess? (Engine.limits settings) = none)
    (judged :
      ∀ member ∈ extended.groups, ∃ membership,
        Direct.membership settings node member = .ok membership)
    (apart : ¬ Direct.Belongs settings node group) :
    ((∃ error,
        (engine.run (classify settings node groupSet)).1 =
            .error (.merge error) ∧
          (other.run (classify settings node extended)).1 =
            .error (.merge error)) ∨
      ∃ resolved extendedResolved membership before after,
        (engine.run (classify settings node groupSet)).1 = .ok resolved ∧
          (other.run (classify settings node extended)).1 =
            .ok extendedResolved ∧
          Direct.membership settings node group = .ok membership ∧
          resolved.AgreesButErrors extendedResolved ∧
          resolved.errors = before ++ after ∧
          extendedResolved.errors = before ++ membership.errors ++ after) ∧
      ((∀ member ∈ groupSet.groups, member.HasTextKeys) →
        ∃ resolved,
          (engine.run (classify settings node groupSet)).1 = .ok resolved) := by
  have sound := GroupSet.sound_of_validate accepted
  have extendedSound := adds.sound sound
  obtain ⟨verdict, decided⟩ := Direct.exists_verdict judged
  have decidedBefore :
      ∀ member ∈ groupSet.groups,
        Direct.membership settings node member = .ok (verdict member) :=
    fun member listed => decided member (adds.mem_iff.mpr (.inr listed))
  have decidedThere := decided group (adds.mem_iff.mpr (.inl rfl))
  have notHolds : (verdict group).holds = false := by
    rw [Direct.belongs_iff decidedThere] at apart
    exact Bool.eq_false_iff.mpr apart
  obtain ⟨withinBefore, noDefect, -⟩ := GroupSet.validate_eq_ok_iff.mp accepted
  rw [trueTo.run_classify, otherTrueTo.run_classify]
  constructor
  · obtain ⟨earlier, later, depth, found, extendedFound⟩ :=
      Direct.exists_findings_of_adds adds sound verdict
    rw [Direct.classify_eq_resolve withinBefore noDefect,
      Direct.classify_eq_resolve within extendedSound.defect?_eq_none,
      Direct.resolve_of_judged sound decidedBefore,
      Direct.resolve_of_judged extendedSound decided,
      Direct.mergeGroups_of_adds adds sound notHolds, found, extendedFound]
    cases
      mergeGroups (groupSet.ordered.filter fun member => (verdict member).holds)
        groupSet.hierarchy node.environment? with
    | error error =>
        exact .inl ⟨error, rfl, rfl⟩
    | ok merged =>
        obtain ⟨agrees, before, after, errors, extendedErrors⟩ :=
          Direct.configuration_append_cons node notHolds groupSet.version
            extended.version earlier later depth merged
        exact .inr ⟨_, _, _, before, after, rfl, rfl, decidedThere, agrees, errors,
          extendedErrors⟩
  · intro textKeys
    exact Direct.exists_classify accepted
      (fun member listed => ⟨_, decidedBefore member listed⟩) textKeys

namespace Sample

/-- A group below another one whose only rule has a bad pattern. -/
def spare : Group :=
  { Group.empty "spare" with
    parent? := some "app",
    rules := [⟨"r3", rolePath, .pattern false "("⟩] }

/-- The sample with this group between the others. -/
def withSpare : GroupSet :=
  ⟨[web, spare, base, app], "v2"⟩

theorem withSpare_adds :
    withSpare.Adds groupSet spare where
  inserted := ⟨[web], [base, app], rfl, rfl⟩
  isNew := by decide
  knowsParent := by
    rintro _ ⟨⟩
    decide

/-- The node is not in the group, whose rule has a problem. -/
theorem membership_spare :
    ∃ membership,
      Direct.membership {} node spare = .ok membership ∧
        membership.holds = false ∧
        membership.errors ≠ [] := by
  refine ⟨_, by cbv, rfl, ?_⟩
  exact List.cons_ne_nil _ _

end Sample

/-- The problem of the group that is added to the sample is told, and nothing else changes. -/
theorem Engine.classify_adds_sample :
    ∃ resolved extendedResolved membership before after,
      ((fresh {} .zero).run (classify {} Sample.node Sample.groupSet)).1 =
          .ok resolved ∧
        ((fresh {} .zero).run (classify {} Sample.node Sample.withSpare)).1 =
          .ok extendedResolved ∧
        Direct.membership {} Sample.node Sample.spare = .ok membership ∧
        membership.errors ≠ [] ∧
        resolved.AgreesButErrors extendedResolved ∧
        resolved.errors = before ++ after ∧
        extendedResolved.errors = before ++ membership.errors ++ after := by
  obtain ⟨membership, decided, notHolds, hasErrors⟩ := Sample.membership_spare
  have judged :
      ∀ member ∈ Sample.withSpare.groups, ∃ membership,
        Direct.membership {} Sample.node member = .ok membership := by
    intro member listed
    rcases Sample.withSpare_adds.mem_iff.mp listed with rfl | isOld
    · exact ⟨membership, decided⟩
    · exact Direct.exists_membership {} Sample.node (Sample.patternsSettle isOld)
  have apart : ¬ Direct.Belongs {} Sample.node Sample.spare := by
    rw [Direct.belongs_iff decided, notHolds]
    exact Bool.false_ne_true
  obtain ⟨either, exists_resolved⟩ :=
    Engine.classify_adds (trueTo_fresh {} .zero Sample.groupSet)
      (trueTo_fresh {} .zero Sample.withSpare) Sample.accepted
      Sample.withSpare_adds (by decide) judged apart
  obtain ⟨resolved, given⟩ :=
    exists_resolved fun _ member => Sample.hasTextKeys member
  rcases either with ⟨error, fails, -⟩ | ⟨_, extendedResolved, _, before, after,
      given, extendedGiven, decidedAgain, agrees, errors, extendedErrors⟩
  · rw [given] at fails
    contradiction
  · cases decided.symm.trans decidedAgain
    exact ⟨_, extendedResolved, membership, before, after, given, extendedGiven,
      decided, hasErrors, agrees, errors, extendedErrors⟩

end FleetConfig
