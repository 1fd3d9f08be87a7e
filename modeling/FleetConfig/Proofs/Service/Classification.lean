import FleetConfig.Proofs.Classification.Conflict
import FleetConfig.Proofs.Service.Consultation

/-!
# What classification gives

A classification goes through all groups in order of their places.  It lists
those that the node belongs to, merges what they set and collects the problems
of all rules that it evaluates, also of groups that the node does not belong to.
-/

namespace FleetConfig

/--
Compiling the patterns of a group's rules succeeds or finds them invalid; it
does not break down.
-/
def Group.PatternsSettle (group : Group) : Prop :=
  ∀ rule ∈ group.rules, ∀ negated source,
    rule.condition = .pattern negated source →
    ∃ compiled, Pattern.compile source = .ok compiled

/--
Facts show what a node reports and, if it is injected, the certname under a
missing key of its own.
-/
def Node.ShownBy
    (node : Node)
    (settings : Settings)
    (facts : Fields) :
    Prop :=
  ∀ key,
    facts.find? key =
      if settings.injectsCertname ∧ key = "clientcert" then
        some ((Fields.find? node.facts key).getD (.text node.certname))
      else
        Fields.find? node.facts key

/-- The facts that rules see are such facts. -/
theorem Engine.exists_factsFor
    (settings : Settings)
    (node : Node) :
    ∃ facts,
      Engine.factsFor settings node = .ofFields facts ∧
        node.ShownBy settings facts := by
  refine ⟨_, rfl, ?_⟩
  intro key
  cases settings.injectsCertname with
  | false =>
      simp
  | true =>
      unfold Node.factsWithCertname
      cases reported : Fields.find? node.facts "clientcert" with
      | some fact =>
          by_cases same : key = "clientcert"
          · subst same
            simp [reported]
          · simp [same]
      | none =>
          by_cases same : key = "clientcert"
          · subst same
            simp only [Fields.find?] at reported ⊢
            simp [List.lookup_append, reported]
          · have different : (key == "clientcert") = false :=
              beq_eq_false_iff_ne.mpr same
            simp [Fields.find?, List.lookup_append, List.lookup_cons,
              same, different]

/-- The groups that a node belongs to by the verdicts on them. -/
def GroupSet.matching
    (groupSet : GroupSet)
    (verdict : Group → Membership) :
    List Group :=
  groupSet.groups.filter fun group => (verdict group).holds

theorem GroupSet.matching_subset
    (groupSet : GroupSet)
    (verdict : Group → Membership) :
    groupSet.matching verdict ⊆ groupSet.groups :=
  List.filter_subset_self _

namespace Direct

variable {settings : Settings} {node : Node}

theorem exists_evaluation
    (facts : Value)
    {group : Group}
    (settles : group.PatternsSettle)
    {rule : Rule}
    (member : rule ∈ group.rules) :
    ∃ evaluation, evaluate facts group.id rule = .ok evaluation := by
  unfold evaluate Rule.verdict
  cases condition : rule.condition with
  | pattern negated source =>
      obtain ⟨compiled, compiles⟩ :=
        settles rule member negated source condition
      have direct : compile source = .ok compiled := by
        unfold compile
        rw [compiles]
        rfl
      dsimp only
      rw [direct]
      exact ⟨_, rfl⟩
  | equality negated expected =>
      exact ⟨_, rfl⟩
  | ordering order bound =>
      exact ⟨_, rfl⟩
  | membership negated items =>
      exact ⟨_, rfl⟩
  | presence negated =>
      exact ⟨_, rfl⟩

/-- A group whose patterns settle is decided on. -/
theorem exists_membership
    (settings : Settings)
    (node : Node)
    {group : Group}
    (settles : group.PatternsSettle) :
    ∃ membership, Direct.membership settings node group = .ok membership := by
  have consulted :=
    group.consulted_subset settings.filtersEnvironments node
  obtain ⟨evaluations, evaluated⟩ :=
    Group.exists_evaluateAll fun rule member =>
      exists_evaluation (Engine.factsFor settings node) settles
        (consulted member)
  unfold Direct.membership
  rw [Group.membership_eq_judge, evaluated]
  exact ⟨_, rfl⟩

/-- Decisions on groups, one by one, are verdicts on all of them. -/
theorem exists_verdict
    {groups : List Group}
    (decided :
      ∀ group ∈ groups, ∃ membership,
        Direct.membership settings node group = .ok membership) :
    ∃ verdict : Group → Membership,
      ∀ group ∈ groups,
        Direct.membership settings node group = .ok (verdict group) := by
  have total :
      ∀ group, ∃ membership,
        group ∈ groups →
        Direct.membership settings node group = .ok membership := by
    intro group
    by_cases member : group ∈ groups
    · obtain ⟨membership, given⟩ := decided group member
      exact ⟨membership, fun _ => given⟩
    · exact ⟨⟨group.id, none, [], false⟩, fun isMember =>
        absurd isMember member⟩
  choose verdict judged using total
  exact ⟨verdict, judged⟩

/-- What is found out about groups, each at its place. -/
def findings
    (hierarchy : Hierarchy)
    (verdict : Group → Membership)
    (groups : List Group) :
    List Engine.Examined :=
  groups.map fun group =>
    (group, (hierarchy.place group.id).1, verdict group)

/-- Groups that are all decided on are examined at their places. -/
theorem examine_eq_ok
    (hierarchy : Hierarchy)
    {verdict : Group → Membership}
    {groups : List Group}
    (judged :
      ∀ group ∈ groups,
        Direct.membership settings node group = .ok (verdict group)) :
    examine settings node hierarchy groups =
      .ok (findings hierarchy verdict groups) := by
  induction groups with
  | nil =>
      rfl
  | cons group rest inductionHypothesis =>
      have others := inductionHypothesis fun other member =>
        judged other (List.mem_cons_of_mem group member)
      unfold examine
      rw [judged group List.mem_cons_self, others]
      rfl

theorem matched_findings
    (hierarchy : Hierarchy)
    (verdict : Group → Membership)
    (groups : List Group) :
    matched (findings hierarchy verdict groups) =
      groups.filter fun group => (verdict group).holds := by
  unfold matched findings
  rw [List.filter_map, List.map_map]
  exact List.map_id _

/-- Once the groups are examined, a result is made up of what they set together. -/
def settleMerge
    (node : Node)
    (version : String)
    (examined : List Engine.Examined)
    (merged : Except MergeError Merged) :
    Except Failure ResolvedConfiguration :=
  (merged.mapError .merge).map (configuration node version examined)

theorem resolve_examined
    (node : Node)
    (version : String)
    (examined : List Engine.Examined)
    (merged : Except MergeError Merged) :
    (merged.mapError .merge >>= fun merged =>
        pure (configuration node version examined merged)) =
      settleMerge node version examined merged := by
  cases merged <;> rfl

/--
When all groups are decided on, merging those that the node belongs to is all that
can fail; a result is made up of the findings and of what they set together.
-/
theorem resolve_of_judged
    {groupSet : GroupSet}
    (sound : groupSet.parents.Sound)
    {verdict : Group → Membership}
    (judged :
      ∀ group ∈ groupSet.groups,
        Direct.membership settings node group = .ok (verdict group)) :
    resolve settings node groupSet groupSet.hierarchy =
      settleMerge node groupSet.version
        (findings groupSet.hierarchy verdict groupSet.ordered)
        (mergeGroups
          (groupSet.ordered.filter fun group => (verdict group).holds)
          groupSet.hierarchy node.environment?) := by
  have examined :=
    examine_eq_ok groupSet.hierarchy fun group member =>
      judged group ((GroupSet.ordered_perm sound).subset member)
  unfold resolve
  rw [show groupSet.hierarchy.order.filterMap groupSet.find? =
    groupSet.ordered from rfl, examined]
  rw [← matched_findings groupSet.hierarchy]
  exact resolve_examined node groupSet.version _ _

/-- When all groups are decided on, those that the node belongs to are merged. -/
theorem resolve_eq_ok
    {groupSet : GroupSet}
    (sound : groupSet.parents.Sound)
    {verdict : Group → Membership}
    (judged :
      ∀ group ∈ groupSet.groups,
        Direct.membership settings node group = .ok (verdict group))
    (textKeys : ∀ group ∈ groupSet.groups, group.HasTextKeys) :
    ∃ placed,
      PlacedGroup.Lists groupSet (groupSet.matching verdict) placed ∧
        mergeGroups (groupSet.matching verdict) groupSet.hierarchy
            node.environment? =
          .ok (PlacedGroup.merge placed node.environment?) ∧
        resolve settings node groupSet groupSet.hierarchy =
          .ok (configuration node groupSet.version
            (findings groupSet.hierarchy verdict groupSet.ordered)
            (PlacedGroup.merge placed node.environment?)) := by
  have permuted := GroupSet.ordered_perm sound
  have members := groupSet.matching_subset verdict
  have distinct : (groupSet.matching verdict).Nodup :=
    (GroupSet.nodup_groups sound).filter _
  have textKeysOfMatching :
      ∀ group ∈ groupSet.matching verdict, group.HasTextKeys :=
    fun group member => textKeys group (members member)
  obtain ⟨placed, lists, merged⟩ :=
    PlacedGroup.mergeGroups_eq_ok sound distinct members
      textKeysOfMatching node.environment?
  -- The matching groups are merged in the order of the hierarchy, not as they are given.
  have rearranged :=
    PlacedGroup.mergeGroups_eq_of_perm sound distinct members
      textKeysOfMatching node.environment? (permuted.symm.filter _)
  refine ⟨placed, lists, merged, ?_⟩
  rw [resolve_of_judged sound judged, ← rearranged, merged]
  rfl

/-- Under an accepted group set with text keys a node that is decided on has a classification. -/
theorem exists_classify
    {groupSet : GroupSet}
    {hierarchy : Hierarchy}
    (accepted : groupSet.validate (Engine.limits settings) = .ok hierarchy)
    (judged :
      ∀ group ∈ groupSet.groups, ∃ membership,
        Direct.membership settings node group = .ok membership)
    (textKeys : ∀ group ∈ groupSet.groups, group.HasTextKeys) :
    ∃ resolved, classify settings node groupSet = .ok resolved := by
  obtain ⟨verdict, decided⟩ := exists_verdict judged
  obtain ⟨_, _, _, resolves⟩ :=
    resolve_eq_ok (GroupSet.sound_of_validate accepted) decided textKeys
  unfold classify
  rw [accepted, GroupSet.hierarchy_of_validate accepted]
  exact ⟨_, resolves⟩

end Direct

/-- What a result says the groups of the node set together. -/
def ResolvedConfiguration.merged (resolved : ResolvedConfiguration) : Merged :=
  { classes := resolved.classes,
    parameters := resolved.parameters,
    globals := resolved.globals,
    environment? := resolved.environment?,
    conflicts := resolved.conflicts }

/-- The digest does not cover itself, so that a sealed result carries its own. -/
theorem ResolvedConfiguration.provenance_sealed
    (resolved : ResolvedConfiguration) :
    resolved.sealed.provenance = resolved.sealed.digest := by
  have covered :
      resolved.sealed.coveredFields = resolved.coveredFields :=
    rfl
  change resolved.digest = resolved.sealed.digest
  unfold digest
  rw [covered]

namespace GroupSet

/--
A group stands before another: less deep, or equally deep under a lesser
identifier.
-/
def StandsBefore
    (groupSet : GroupSet)
    (left right : Group) :
    Prop :=
  ∃ leftDepth rightDepth,
    groupSet.parents.HasDepth left.id leftDepth ∧
      groupSet.parents.HasDepth right.id rightDepth ∧
      Place.Before (leftDepth, left.id) (rightDepth, right.id)

/--
A result is the classification of a node, told from the groups alone: from their
parent links, what matching finds for each of them, and what they set.
-/
structure Classifies
    (groupSet : GroupSet)
    (settings : Settings)
    (node : Node)
    (verdict : Group → Membership)
    (resolved : ResolvedConfiguration) :
    Prop where
  facts :
    ∃ facts,
      Engine.factsFor settings node = .ofFields facts ∧
        node.ShownBy settings facts
  judged :
    ∀ group ∈ groupSet.groups,
      Direct.membership settings node group = .ok (verdict group)
  evaluated :
    ∀ group ∈ groupSet.groups,
      List.Forall₂
        (fun rule evaluation =>
          Direct.evaluate (Engine.factsFor settings node) group.id rule =
            .ok evaluation)
        (group.consulted settings.filtersEnvironments node)
        (verdict group).evaluations
  certname : resolved.certname = node.certname
  version : resolved.version = groupSet.version
  groups :
    ∀ found,
      found ∈ resolved.groups ↔
        ∃ group ∈ groupSet.groups, ∃ depth reason,
          groupSet.parents.HasDepth group.id depth ∧
            (verdict group).reason? = some reason ∧
            found =
              { group := group.id,
                name := group.name,
                depth,
                reason,
                matchedRules := (verdict group).matchedRules }
  groupsInOrder :
    resolved.groups.Pairwise fun left right =>
      Place.Before (left.depth, left.group) (right.depth, right.group)
  classes :
    ∀ name,
      name ∈ resolved.classes ↔
        ∃ group ∈ groupSet.matching verdict, name ∈ group.classes
  classesAscending : Text.StrictlyAscending resolved.classes
  errors :
    ∃ ordered : List Group,
      ordered.Perm groupSet.groups ∧
        ordered.Pairwise groupSet.StandsBefore ∧
        resolved.errors =
          ordered.flatMap fun group =>
            (verdict group).evaluations.filterMap (·.error?)
  merged :
    mergeGroups (groupSet.matching verdict) groupSet.hierarchy
        node.environment? =
      .ok resolved.merged
  parameters :
    groupSet.MergedByPrecedence (groupSet.matching verdict) .parameters
      resolved.parameters
  globals :
    groupSet.MergedByPrecedence (groupSet.matching verdict) .globals
      resolved.globals
  environment :
    groupSet.EnvironmentByPrecedence (groupSet.matching verdict)
      node.environment? resolved.environment?
  conflicts :
    groupSet.ReportsConflicts (groupSet.matching verdict) resolved.merged
  provenance : resolved.provenance = resolved.digest

section Findings

variable {groupSet : GroupSet} {node : Node} {verdict : Group → Membership}

/-- The group matches are those of the groups on which the verdict gives a reason. -/
theorem mem_filterMap_match?
    (sound : groupSet.parents.Sound)
    {found : GroupMatch} :
    found ∈
        (Direct.findings groupSet.hierarchy verdict
          groupSet.ordered).filterMap Engine.match? ↔
      ∃ group ∈ groupSet.groups, ∃ depth reason,
        groupSet.parents.HasDepth group.id depth ∧
          (verdict group).reason? = some reason ∧
          found =
            { group := group.id,
              name := group.name,
              depth,
              reason,
              matchedRules := (verdict group).matchedRules } := by
  unfold Direct.findings
  rw [List.filterMap_map, List.mem_filterMap]
  constructor
  · rintro ⟨group, listed, made⟩
    obtain ⟨reason, given, rfl⟩ := Option.map_eq_some_iff.mp made
    have member := (ordered_perm sound).subset listed
    exact ⟨group, member, _, reason, hasDepth_place sound member, given, rfl⟩
  · rintro ⟨group, member, depth, reason, stands, given, rfl⟩
    have sameDepth :=
      (hasDepth_place sound member).unique sound.distinct stands
    refine ⟨group, (ordered_perm sound).symm.subset member, ?_⟩
    simp [Engine.match?, given, sameDepth]

theorem filterMap_match?_pairwise
    (sound : groupSet.parents.Sound) :
    ((Direct.findings groupSet.hierarchy verdict
        groupSet.ordered).filterMap Engine.match?).Pairwise
      fun left right =>
        Place.Before (left.depth, left.group)
          (right.depth, right.group) := by
  unfold Direct.findings
  rw [List.filterMap_map, List.pairwise_filterMap]
  refine (ordered_pairwise sound).imp ?_
  intro left right before leftMatch leftMade rightMatch rightMade
  obtain ⟨_, _, rfl⟩ := Option.map_eq_some_iff.mp leftMade
  obtain ⟨_, _, rfl⟩ := Option.map_eq_some_iff.mp rightMade
  exact before

theorem ordered_standsBefore
    (sound : groupSet.parents.Sound) :
    groupSet.ordered.Pairwise groupSet.StandsBefore := by
  refine (ordered_pairwise sound).imp_of_mem ?_
  intro left right leftListed rightListed before
  have permuted := ordered_perm sound
  exact ⟨_, _, hasDepth_place sound (permuted.subset leftListed),
    hasDepth_place sound (permuted.subset rightListed), before⟩

/-- Without caches an accepted group set classifies every node. -/
theorem exists_classifies
    {settings : Settings}
    (sound : groupSet.parents.Sound)
    (judged :
      ∀ group ∈ groupSet.groups,
        Direct.membership settings node group = .ok (verdict group))
    (textKeys : ∀ group ∈ groupSet.groups, group.HasTextKeys) :
    ∃ resolved,
      Direct.resolve settings node groupSet groupSet.hierarchy =
          .ok resolved ∧
        groupSet.Classifies settings node verdict resolved := by
  obtain ⟨placed, lists, merged, resolves⟩ :=
    Direct.resolve_eq_ok sound judged textKeys
  have members := groupSet.matching_subset verdict
  refine ⟨_, resolves, ?_⟩
  exact
    { facts := Engine.exists_factsFor settings node,
      judged,
      evaluated := fun group member =>
        Group.forall₂_evaluations (judged group member),
      certname := rfl,
      version := rfl,
      groups := fun found => mem_filterMap_match? sound,
      groupsInOrder := filterMap_match?_pairwise sound,
      classes := fun name =>
        PlacedGroup.mem_classes_merge lists
          (fun group member => grounded_of_mem sound (members member))
          node.environment?,
      classesAscending := Text.distinctAscending_strictlyAscending _,
      errors := ⟨groupSet.ordered, ordered_perm sound,
        ordered_standsBefore sound, List.flatMap_map ..⟩,
      merged,
      parameters :=
        PlacedGroup.values_mergedByPrecedence sound members lists .parameters,
      globals :=
        PlacedGroup.values_mergedByPrecedence sound members lists .globals,
      environment :=
        PlacedGroup.environment?_environmentByPrecedence sound members lists
          node.environment?,
      conflicts :=
        PlacedGroup.merge_reportsConflicts sound members lists
          node.environment?,
      provenance := ResolvedConfiguration.provenance_sealed _ }

end Findings

end GroupSet

/--
A fresh engine classifies every node under an accepted group set, and the result
is the one told from the groups.
-/
theorem Engine.classify_classifies
    {groupSet : GroupSet}
    {settings : Settings}
    {hierarchy : Hierarchy}
    (accepted :
      groupSet.validate (Engine.limits settings) = .ok hierarchy)
    (settles : ∀ group ∈ groupSet.groups, group.PatternsSettle)
    (textKeys : ∀ group ∈ groupSet.groups, group.HasTextKeys)
    (node : Node)
    (meters : Meters) :
    ∃ verdict resolved,
      ((Engine.fresh settings meters).run
          (Engine.classify settings node groupSet)).1 = .ok resolved ∧
        groupSet.Classifies settings node verdict resolved := by
  have sound := GroupSet.sound_of_validate accepted
  obtain ⟨verdict, judged⟩ :=
    Direct.exists_verdict fun group member =>
      Direct.exists_membership settings node (settles group member)
  obtain ⟨resolved, resolves, classifies⟩ :=
    GroupSet.exists_classifies sound judged textKeys
  refine ⟨verdict, resolved, ?_, classifies⟩
  rw [Engine.run_classify_fresh]
  unfold Direct.classify
  rw [accepted, GroupSet.hierarchy_of_validate accepted]
  exact resolves

theorem Sample.patternsSettle
    {group : Group}
    (member : group ∈ Sample.groupSet.groups) :
    group.PatternsSettle := by
  have web : ∃ compiled, Pattern.compile "^web" = .ok compiled :=
    ⟨_, by cbv⟩
  have unbalanced : ∃ compiled, Pattern.compile "(" = .ok compiled :=
    ⟨_, by cbv⟩
  simp only [Sample.groupSet, List.mem_cons, List.not_mem_nil, or_false]
    at member
  rcases member with rfl | rfl | rfl
  · intro rule listed negated source condition
    simp only [Sample.web, List.mem_cons, List.not_mem_nil, or_false]
      at listed
    rcases listed with rfl | rfl
    · cases condition
      exact web
    · cases condition
      exact unbalanced
  · intro rule listed
    simp [Sample.base, Group.empty] at listed
  · intro rule listed
    simp [Sample.app, Group.empty] at listed

/-- A node that the sample pins and whose role one of its rules matches. -/
def Sample.node : Node :=
  ⟨"node1", [("role", .text "webserver")], none⟩

/-- The sample classifies its node. -/
theorem Engine.classify_classifies_sample :
    ∃ verdict resolved,
      ((Engine.fresh {} .zero).run
          (Engine.classify {} Sample.node Sample.groupSet)).1 =
        .ok resolved ∧
      Sample.groupSet.Classifies {} Sample.node verdict resolved :=
  Engine.classify_classifies Sample.accepted
    (fun _ member => Sample.patternsSettle member)
    (fun _ member => Sample.hasTextKeys member) Sample.node .zero

end FleetConfig
