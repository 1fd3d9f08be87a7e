import FleetConfig.Proofs.Classification.Revision
import FleetConfig.Proofs.Group.Renumbering
import FleetConfig.Proofs.Rule.NumberedIds
import FleetConfig.Proofs.Service.Revision

/-!
# Classification under renumbered rules

The identifiers that rules are handed out are seen in a classification, but they decide
nothing.  Whatever they are, a node belongs to the same groups for the same reasons and
gets the same configuration; where the identifiers are told, one stands for the other.
-/

namespace FleetConfig

/-- An error of a rule whose identifier is traded within its group. -/
def RuleError.renamed
    (rename : String → String → String)
    (error : RuleError) :
    RuleError :=
  { error with
    rule :=
      match error.group? with
      | some group =>
          rename group error.rule
      | none =>
          error.rule }

/-- What a rule of a group finds, under the traded identifier. -/
def Evaluation.renamed
    (rename : String → String → String)
    (group : String)
    (evaluation : Evaluation) :
    Evaluation :=
  { evaluation with
    rule := rename group evaluation.rule
    error? := evaluation.error?.map (RuleError.renamed rename) }

/-- Whether and why a node belongs to a group, under the traded identifiers of its rules. -/
def Membership.renamed
    (rename : String → String → String)
    (group : String)
    (membership : Membership) :
    Membership :=
  { membership with
    evaluations := membership.evaluations.map (Evaluation.renamed rename group) }

/-- A group match that tells the traded identifiers. -/
def GroupMatch.renamed
    (rename : String → String → String)
    (found : GroupMatch) :
    GroupMatch :=
  { found with matchedRules := found.matchedRules.map (rename found.group) }

/-- Results are the same but for the identifiers of rules, the version and the digest. -/
structure ResolvedConfiguration.RenamedTo
    (rename : String → String → String)
    (resolved other : ResolvedConfiguration) :
    Prop where
  certname : other.certname = resolved.certname
  environment? : other.environment? = resolved.environment?
  groups : other.groups = resolved.groups.map (GroupMatch.renamed rename)
  classes : other.classes = resolved.classes
  parameters : other.parameters = resolved.parameters
  globals : other.globals = resolved.globals
  conflicts : other.conflicts = resolved.conflicts
  errors : other.errors = resolved.errors.map (RuleError.renamed rename)

/-- A group under the traded identifiers of its rules. -/
def Group.renamed
    (rename : String → String → String)
    (group : Group) :
    Group :=
  group.renamingRules (rename group.id)

/--
In each group of a set the identifiers of the rules are traded one-to-one: those that
were handed out for those that were handed out in the same turn.
-/
structure GroupSet.RenumberedTo
    (supply other : IdSupply)
    (taken : Nat)
    (rename : String → String → String)
    (groupSet otherSet : GroupSet) :
    Prop where
  groups : otherSet.groups = groupSet.groups.map (Group.renamed rename)
  renumbers :
    ∀ group ∈ groupSet.groups, ∀ rule ∈ group.rules,
      Rule.Renumbers supply other taken (rename group.id) rule.id
  injective :
    ∀ group ∈ groupSet.groups,
      Set.InjOn (rename group.id) {id | ∃ rule ∈ group.rules, rule.id = id}

section Membership

variable {rename : String → String → String}

theorem Direct.evaluate_renamed
    (rename : String → String → String)
    (facts : Value)
    (group : String)
    (rule : Rule) :
    Direct.evaluate facts group (rule.renamed (rename group)) =
      (Direct.evaluate facts group rule).map
        (Evaluation.renamed rename group) := by
  have sameVerdict :
      (rule.renamed (rename group)).verdict Direct.compile
          ((rule.renamed (rename group)).fact? facts) =
        rule.verdict Direct.compile (rule.fact? facts) :=
    rfl
  unfold Direct.evaluate
  rw [sameVerdict]
  cases rule.verdict Direct.compile (rule.fact? facts) with
  | error failure =>
      rfl
  | ok verdict =>
      cases verdict <;> rfl

theorem Group.evaluateAll_map
    {evaluate : Rule → Except ε Evaluation}
    {change : Rule → Rule}
    {changed : Evaluation → Evaluation}
    (each : ∀ rule, evaluate (change rule) = (evaluate rule).map changed)
    (rules : List Rule) :
    evaluateAll evaluate (rules.map change) =
      (evaluateAll evaluate rules).map (List.map changed) := by
  induction rules with
  | nil =>
      rfl
  | cons rule rest inductionHypothesis =>
      rw [List.map_cons, evaluateAll, evaluateAll, each, inductionHypothesis]
      cases evaluate rule with
      | error error =>
          rfl
      | ok evaluation =>
          cases evaluateAll evaluate rest <;> rfl

theorem Group.consulted_renamed
    (filtering : Bool)
    (node : Node)
    (group : Group) :
    (group.renamed rename).consulted filtering node =
      (group.consulted filtering node).map (Rule.renamed (rename group.id)) := by
  unfold consulted
  rw [apply_ite (List.map (Rule.renamed (rename group.id)))]
  rfl

theorem Group.judge_renamed
    (filtering : Bool)
    (node : Node)
    (group : Group)
    (evaluations : List Evaluation) :
    (group.renamed rename).judge filtering node
        (evaluations.map (Evaluation.renamed rename group.id)) =
      (group.judge filtering node evaluations).renamed rename group.id := by
  have sameVerdict :
      combine (group.renamed rename).matchType
          (evaluations.map (Evaluation.renamed rename group.id)) =
        combine group.matchType evaluations := by
    change combine group.matchType _ = _
    unfold combine
    cases group.matchType with
    | all =>
        exact List.all_map
    | any =>
        exact List.any_map
  have sameEmptiness :
      (group.renamed rename).rules.isEmpty = group.rules.isEmpty :=
    List.isEmpty_map
  unfold judge
  simp only [sameEmptiness, sameVerdict,
    apply_ite (Membership.renamed rename group.id)]
  rfl

/-- A node belongs to a group for the same reason under the traded identifiers. -/
theorem Direct.membership_renamed
    (settings : Settings)
    (node : Node)
    (group : Group) :
    Direct.membership settings node (group.renamed rename) =
      (Direct.membership settings node group).map
        (Membership.renamed rename group.id) := by
  unfold Direct.membership
  rw [Group.membership_eq_judge, Group.membership_eq_judge,
    Group.consulted_renamed]
  have evaluated :=
    Group.evaluateAll_map
      (Direct.evaluate_renamed rename (Engine.factsFor settings node) group.id)
      (group.consulted settings.filtersEnvironments node)
  change Group.evaluateAll (Direct.evaluate _ group.id) _ >>= _ = _
  rw [evaluated]
  cases Group.evaluateAll
      (Direct.evaluate (Engine.factsFor settings node) group.id)
      (group.consulted settings.filtersEnvironments node) with
  | error failure =>
      rfl
  | ok evaluations =>
      exact congrArg Except.ok (group.judge_renamed _ node evaluations)

theorem Membership.matchedRules_renamed
    (group : String)
    (membership : Membership) :
    (membership.renamed rename group).matchedRules =
      membership.matchedRules.map (rename group) := by
  unfold matchedRules
  change ((membership.evaluations.map _).filter _).map _ = _
  rw [List.filter_map, List.map_map, List.map_map]
  rfl

theorem Membership.errors_renamed
    (group : String)
    (membership : Membership) :
    (membership.renamed rename group).errors =
      membership.errors.map (RuleError.renamed rename) := by
  unfold errors
  change (membership.evaluations.map _).filterMap _ = _
  rw [List.filterMap_map, List.map_filterMap]
  rfl

end Membership

namespace GroupSet

variable {supply other : IdSupply} {taken : Nat} {groupSet otherSet : GroupSet}

/-- Validation sees no identifiers of rules. -/
theorem outline_eq_of_renumbered
    (renumbered :
      List.Forall₂ (Group.Renumbered supply other taken) groupSet.groups
        otherSet.groups) :
    otherSet.outline = groupSet.outline := by
  unfold outline
  symm
  rw [← List.forall₂_eq_eq_eq, List.forall₂_map_left_iff,
    List.forall₂_map_right_iff]
  refine renumbered.imp ?_
  rintro group _ ⟨rename, _, rfl⟩
  change _ = (group.id, group.parent?, (group.rules.map _).length)
  rw [List.length_map]

/-- The identifiers of rules that differ under the traded ones were traded one-to-one. -/
theorem renamed_injOn
    {rename : String → String → String}
    {group : Group}
    (distinct : ((group.renamed rename).rules.map (·.id)).Nodup) :
    Set.InjOn (rename group.id) {id | ∃ rule ∈ group.rules, rule.id = id} := by
  have ids :
      (group.renamed rename).rules.map (·.id) =
        (group.rules.map (·.id)).map (rename group.id) := by
    change (group.rules.map _).map _ = _
    rw [List.map_map, List.map_map]
    rfl
  rw [ids] at distinct
  rintro _ ⟨rule, member, rfl⟩ _ ⟨other, otherMember, rfl⟩ same
  exact List.inj_on_of_nodup_map distinct (List.mem_map_of_mem member)
    (List.mem_map_of_mem otherMember) same

/-- Where groups have different identifiers, one renaming tells of the rules of all. -/
theorem exists_rename
    {groups otherGroups : List Group}
    (renumbered :
      List.Forall₂ (Group.Renumbered supply other taken) groups otherGroups)
    (distinct : (groups.map (·.id)).Nodup) :
    ∃ rename : String → String → String,
      otherGroups = groups.map (Group.renamed rename) ∧
        ∀ group ∈ groups, ∀ rule ∈ group.rules,
          Rule.Renumbers supply other taken (rename group.id) rule.id := by
  induction renumbered with
  | nil =>
      exact ⟨fun _ id => id, rfl, nofun⟩
  | @cons group otherGroup groups otherGroups first _ inductionHypothesis =>
      rw [List.map_cons, List.nodup_cons] at distinct
      obtain ⟨rename, rfl, renumbers⟩ := inductionHypothesis distinct.2
      obtain ⟨renameHere, renumbersHere, rfl⟩ := first
      -- Later groups have other identifiers, so that their rules are traded as before.
      have here : Function.update rename group.id renameHere group.id = renameHere :=
        Function.update_self ..
      have later :
          ∀ laterGroup ∈ groups,
            Function.update rename group.id renameHere laterGroup.id =
              rename laterGroup.id := by
        intro laterGroup member
        refine Function.update_of_ne (fun same => distinct.1 ?_) ..
        exact same ▸ List.mem_map_of_mem member
      refine ⟨Function.update rename group.id renameHere, ?_,
        List.forall_mem_cons.mpr ⟨?_, ?_⟩⟩
      · rw [List.map_cons, Group.renamed, here]
        refine congrArg (group.renamingRules renameHere :: ·)
          (List.map_congr_left fun laterGroup member => ?_)
        rw [Group.renamed, Group.renamed, later laterGroup member]
      · rw [here]
        exact renumbersHere
      · intro laterGroup member
        rw [later laterGroup member]
        exact renumbers laterGroup member

theorem exists_renumberedTo
    (renumbered :
      List.Forall₂ (Group.Renumbered supply other taken) groupSet.groups
        otherSet.groups)
    (ruleIds : ∀ group ∈ otherSet.groups, (group.rules.map (·.id)).Nodup) :
    ∃ rename,
      groupSet.ids.Nodup →
        RenumberedTo supply other taken rename groupSet otherSet := by
  by_cases distinct : groupSet.ids.Nodup
  · obtain ⟨rename, shape, renumbers⟩ := exists_rename renumbered distinct
    refine ⟨rename, fun _ => ⟨shape, renumbers, fun group member => ?_⟩⟩
    rw [shape] at ruleIds
    exact renamed_injOn (ruleIds _ (List.mem_map_of_mem member))
  · exact ⟨fun _ id => id, fun isDistinct => absurd isDistinct distinct⟩

end GroupSet

namespace Direct

variable {settings : Settings}
  {node : Node}
  {supply other : IdSupply}
  {taken : Nat}
  {rename : String → String → String}
  {groupSet otherSet : GroupSet}

theorem revises_of_renumberedTo
    (renumbered : groupSet.RenumberedTo supply other taken rename otherSet)
    (sameOutline : otherSet.outline = groupSet.outline) :
    Revises settings node otherSet groupSet (Group.renamed rename)
      fun group membership => membership.renamed rename group.id where
  groups := renumbered.groups
  sameId := fun _ _ => rfl
  sameOutline := sameOutline
  membership := fun group _ => membership_renamed settings node group
  sameReason := fun _ _ => rfl

theorem match?_renamed
    (found : Engine.Examined) :
    Engine.match?
        (revisedFinding (Group.renamed rename)
          (fun group membership => membership.renamed rename group.id) found) =
      (Engine.match? found).map (GroupMatch.renamed rename) := by
  obtain ⟨group, depth, membership⟩ := found
  unfold Engine.match? revisedFinding
  dsimp only
  rw [Membership.matchedRules_renamed, Option.map_map]
  rfl

/-- Where the identifiers of rules are told, one stands for the other. -/
theorem configuration_renamed
    (version otherVersion : String)
    (examined : List Engine.Examined)
    (merged : Merged) :
    (configuration node version examined merged).RenamedTo rename
      (configuration node otherVersion
        (examined.map
          (revisedFinding (Group.renamed rename) fun group membership =>
            membership.renamed rename group.id))
        merged) := by
  constructor
  case groups =>
    change List.filterMap _ _ = (List.filterMap _ _).map _
    rw [List.filterMap_map, List.map_filterMap]
    exact List.filterMap_congr fun found _ => match?_renamed found
  case errors =>
    change List.flatMap _ _ = (List.flatMap _ _).map _
    rw [List.flatMap_map, List.map_flatMap]
    exact List.flatMap_congr fun (group, _, membership) _ =>
      membership.errors_renamed group.id
  all_goals rfl

/-- A classification fails alike, or gives results that differ in the traded identifiers. -/
theorem classify_renamed
    (renumbered :
      groupSet.ids.Nodup →
        groupSet.RenumberedTo supply other taken rename otherSet)
    (sameOutline : otherSet.outline = groupSet.outline) :
    (∀ failure,
        classify settings node groupSet = .error failure →
        classify settings node otherSet = .error failure) ∧
      ∀ resolved,
        classify settings node groupSet = .ok resolved →
        ∃ otherResolved,
          classify settings node otherSet = .ok otherResolved ∧
            resolved.RenamedTo rename otherResolved := by
  have otherValidated :=
    GroupSet.validate_eq_of_outline_eq sameOutline (Engine.limits settings)
  cases accepted : groupSet.validate (Engine.limits settings) with
  | error error =>
      rw [accepted] at otherValidated
      rw [classify_of_rejected accepted, classify_of_rejected otherValidated]
      exact ⟨fun _ fails => fails, nofun⟩
  | ok hierarchy =>
      have distinct :=
        GroupSet.nodup_map_id (GroupSet.sound_of_validate accepted)
      have revises :
          Revises settings node otherSet groupSet (Group.renamed rename)
            fun group membership => membership.renamed rename group.id :=
        revises_of_renumberedTo (renumbered distinct) sameOutline
      cases found : examine settings node groupSet.hierarchy groupSet.ordered with
      | error failure =>
          rw [revises.classify_of_examine_error accepted found,
            classify_of_examine_error accepted found]
          exact ⟨fun _ fails => fails, nofun⟩
      | ok examined =>
          have setLike :
              ∀ group ∈ matched examined,
                (group.renamed rename).SetsLike group :=
            fun group _ => ⟨rfl, rfl, rfl, rfl, rfl, rfl⟩
          have merges :=
            PlacedGroup.mergeGroups_map setLike
              (fun group _ =>
                GroupSet.depth?_eq_of_outline_eq sameOutline group.id)
              node.environment?
          rw [revises.classify_of_examine accepted found,
            classify_of_examine accepted found, merges]
          cases mergeGroups (matched examined) groupSet.hierarchy
              node.environment? with
          | error error =>
              exact ⟨fun _ fails => fails, nofun⟩
          | ok merged =>
              refine ⟨nofun, ?_⟩
              rintro _ ⟨⟩
              exact ⟨_, rfl, configuration_renamed _ _ examined merged⟩

end Direct

/--
Two readings of one document, with whatever identifiers to hand out that clash with
none that a rule of the same group has of its own.  If neither supply repeats one, or
both do so in the same turns, both readings succeed or neither does, with complaints
that are alike.  The group sets that are read are rejected by the same errors, and
engines that are true to them classify every node alike: they fail with the same
failure, or their results differ in no more than the identifiers of rules, where those
that were handed out are traded one-to-one.
-/
theorem Engine.classify_renumbered
    {supply other : IdSupply}
    {document : Value}
    (alike : supply.RepeatsLike other (GroupSet.idsTaken document))
    (clashFree : GroupSet.ClashFree supply document)
    (otherClashFree : GroupSet.ClashFree other document) :
    (∀ complaints,
        GroupSet.read supply document = .invalid complaints →
        ∃ otherComplaints,
          GroupSet.read other document = .invalid otherComplaints ∧
            List.Forall₂
              (Complaint.Alike
                (Rule.HandedOut supply other (GroupSet.idsTaken document)))
              complaints otherComplaints) ∧
      ∀ groupSet,
        GroupSet.read supply document = .valid groupSet →
        ∃ otherSet rename,
          GroupSet.read other document = .valid otherSet ∧
            (∀ limits error,
              groupSet.validate limits = .error error ↔
                otherSet.validate limits = .error error) ∧
            (groupSet.ids.Nodup →
              groupSet.RenumberedTo supply other
                (GroupSet.idsTaken document) rename otherSet) ∧
            ∀ (settings : Settings) (node : Node) (engine otherEngine : Engine),
              engine.TrueTo settings groupSet →
              otherEngine.TrueTo settings otherSet →
              (∀ failure,
                  (engine.run (classify settings node groupSet)).1 =
                    .error failure →
                  (otherEngine.run (classify settings node otherSet)).1 =
                    .error failure) ∧
                ∀ resolved,
                  (engine.run (classify settings node groupSet)).1 =
                    .ok resolved →
                  ∃ otherResolved,
                    (otherEngine.run (classify settings node otherSet)).1 =
                        .ok otherResolved ∧
                      resolved.RenamedTo rename otherResolved := by
  have readings := GroupSet.related_read alike clashFree otherClashFree
  constructor
  · intro complaints unreadable
    rw [unreadable] at readings
    exact readings.exists_invalid
  · intro groupSet isRead
    rw [isRead] at readings
    obtain ⟨otherSet, otherRead, renumbered⟩ := readings.exists_valid
    have sameOutline := GroupSet.outline_eq_of_renumbered renumbered
    obtain ⟨rename, trades⟩ :=
      GroupSet.exists_renumberedTo renumbered fun group member =>
        (GroupSet.wellFormed_of_read otherRead group member).ruleIds
    refine ⟨otherSet, rename, otherRead, ?_, trades, ?_⟩
    · intro limits error
      rw [GroupSet.validate_eq_of_outline_eq sameOutline]
      cases groupSet.validate limits with
      | error reason =>
          exact Iff.rfl
      | ok hierarchy =>
          exact ⟨nofun, nofun⟩
    · intro settings node engine otherEngine trueTo otherTrueTo
      rw [trueTo.run_classify, otherTrueTo.run_classify]
      exact Direct.classify_renamed trades sameOutline

namespace Sample

/-- Rules of which the first has an identifier of its own and the last a problem. -/
def mixedRules : List Value :=
  [.ofFields
      [("id", .text "r1"),
        ("fact_path", .text "role"),
        ("operator", .text "exists")],
    .ofFields
      [("fact_path", .text "role"),
        ("operator", .text "="),
        ("value", .text "webserver")],
    .ofFields
      [("fact_path", .text "role"),
        ("operator", .text ">"),
        ("value", .integer 1)]]

/-- The definition of a group with such rules. -/
def mixedDefinition : Value :=
  .ofFields
    [("id", .text "web"),
      ("rule_match_type", .text "any"),
      ("rules", .list mixedRules)]

/-- The document of the single group. -/
def mixedDefinitions : Value :=
  .ofFields
    [("groups", .list [mixedDefinition]),
      ("version", .text "v1")]

/-- The group as it is read when the identifiers of numbers from zero on are handed out. -/
def mixedGroup : Group :=
  { Group.empty "web" with
    matchType := .any
    rules :=
      [⟨"r1", rolePath, .presence false⟩,
        ⟨IdSupply.numberedId 0, rolePath, .equality false (.text "webserver")⟩,
        ⟨IdSupply.numberedId 1, rolePath, .ordering .greater (.integer 1)⟩] }

theorem read_mixedDefinition :
    Group.read (.numbered 0) mixedDefinition = .valid mixedGroup :=
  Group.read_eq_valid_iff.mpr ⟨_, rfl,
    { id := rfl
      name := ⟨"", rfl, rfl⟩
      description := rfl
      parent := rfl
      environment := rfl
      assignsEnvironment := rfl
      matchesAllNodes := rfl
      matchType := rfl
      rules := rfl
      pinnedNodes := rfl
      classes := rfl
      parameters := rfl
      globals := rfl
      ruleIds := by decide }⟩

theorem read_mixedDefinitions :
    GroupSet.read (.numbered 0) mixedDefinitions = .valid ⟨[mixedGroup], "v1"⟩ := by
  have groupsRead :
      Group.readList (.numbered 0) (.list [mixedDefinition]) = .valid [mixedGroup] := by
    rw [Group.readList_eq_suppliedList]
    exact Schema.suppliedList_eq_valid_iff.mpr
      ⟨[mixedDefinition], rfl, .cons read_mixedDefinition .nil⟩
  exact GroupSet.read_eq_valid_iff.mpr ⟨_, [mixedGroup], "v1", rfl,
    Schema.withDefault_ofFields rfl groupsRead, rfl, rfl⟩

theorem mixedGroup_classified :
    ∃ resolved,
      ((Engine.fresh {} .zero).run
          (Engine.classify {} node ⟨[mixedGroup], "v1"⟩)).1 =
        .ok resolved := by
  have accepted :
      (GroupSet.mk [mixedGroup] "v1").validate (Engine.limits {}) =
        .ok (GroupSet.mk [mixedGroup] "v1").hierarchy := by
    cbv
  have settles : mixedGroup.PatternsSettle := by
    intro rule member negated source condition
    simp only [mixedGroup, List.mem_cons, List.not_mem_nil, or_false] at member
    rcases member with rfl | rfl | rfl <;> contradiction
  have textKeys : mixedGroup.HasTextKeys :=
    ⟨by decide, by decide⟩
  rw [Engine.run_classify_fresh]
  exact Direct.exists_classify accepted
    (List.forall_mem_singleton.mpr
      (Direct.exists_membership {} node settles))
    (List.forall_mem_singleton.mpr textKeys)

end Sample

/-- Two rules of the sample are handed out other identifiers in the second reading. -/
theorem Engine.classify_renumbered_sample :
    (IdSupply.numbered 0).RepeatsLike (.numbered 7)
        (GroupSet.idsTaken Sample.mixedDefinitions) ∧
      GroupSet.ClashFree (.numbered 0) Sample.mixedDefinitions ∧
      GroupSet.ClashFree (.numbered 7) Sample.mixedDefinitions ∧
      ∃ groupSet otherSet rename resolved otherResolved,
        GroupSet.read (.numbered 0) Sample.mixedDefinitions = .valid groupSet ∧
          GroupSet.read (.numbered 7) Sample.mixedDefinitions = .valid otherSet ∧
          groupSet.RenumberedTo (.numbered 0) (.numbered 7) 2 rename otherSet ∧
          ((fresh {} .zero).run (classify {} Sample.node groupSet)).1 =
            .ok resolved ∧
          ((fresh {} .zero).run (classify {} Sample.node otherSet)).1 =
            .ok otherResolved ∧
          resolved.RenamedTo rename otherResolved := by
  have alike :
      (IdSupply.numbered 0).RepeatsLike (.numbered 7)
        (GroupSet.idsTaken Sample.mixedDefinitions) :=
    IdSupply.repeatsLike_numbered 0 7 _
  have avoid : Rule.SupplyAvoids (.numbered 0) 2 ["r1"] := by
    unfold Rule.SupplyAvoids
    decide
  have otherAvoid : Rule.SupplyAvoids (.numbered 7) 2 ["r1"] := by
    unfold Rule.SupplyAvoids
    decide
  have clashFree : GroupSet.ClashFree (.numbered 0) Sample.mixedDefinitions :=
    ⟨avoid, trivial⟩
  have otherClashFree : GroupSet.ClashFree (.numbered 7) Sample.mixedDefinitions :=
    ⟨otherAvoid, trivial⟩
  obtain ⟨-, readings⟩ := Engine.classify_renumbered alike clashFree otherClashFree
  obtain ⟨otherSet, rename, otherRead, -, trades, classified⟩ :=
    readings _ Sample.read_mixedDefinitions
  obtain ⟨-, succeeds⟩ :=
    classified {} Sample.node (fresh {} .zero) (fresh {} .zero)
      (trueTo_fresh {} .zero _) (trueTo_fresh {} .zero _)
  obtain ⟨resolved, given⟩ := Sample.mixedGroup_classified
  obtain ⟨otherResolved, otherGiven, renamed⟩ := succeeds resolved given
  have distinct : (GroupSet.mk [Sample.mixedGroup] "v1").ids.Nodup :=
    List.nodup_singleton "web"
  exact ⟨alike, clashFree, otherClashFree, _, otherSet, rename, resolved, otherResolved,
    Sample.read_mixedDefinitions, otherRead, trades distinct, given, otherGiven,
    renamed⟩

end FleetConfig
