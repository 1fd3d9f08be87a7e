import FleetConfig.Proofs.Pattern.Repetition
import FleetConfig.Proofs.Rule.Reading
import FleetConfig.Proofs.Service.Classification
import FleetConfig.Proofs.Value.Sortable

/-!
# Patterns that break down

Evaluating a rule gives an evaluation whatever the fact is, with one exception:
compiling a pattern can break down, and nothing catches that.  So a rule is
evaluated on every fact or on none, and a classification fails with the fault of
the first rule that counts and breaks down.
-/

namespace FleetConfig

/-- The fault that compiling the pattern of a rule breaks down with, if it does. -/
def Rule.breakdown? (rule : Rule) : Option Pattern.Fatal :=
  match rule.condition with
  | .pattern _ source =>
      match Pattern.compile source with
      | .ok _ =>
          none
      | .error fatal =>
          some fatal
  | _ =>
      none

/-- The fault of the first rule that counts for a node and breaks down. -/
def Group.breakdown?
    (filtering : Bool)
    (node : Node)
    (group : Group) :
    Option Pattern.Fatal :=
  (group.consulted filtering node).findSome? Rule.breakdown?

/-- Whether what a rule compares facts with keeps the limit for texts of integers. -/
def Rule.isWritable (rule : Rule) : Bool :=
  rule.condition.expected.toValue.isWritable

/-- Whether the rules of a group and what it sets keep the limit for texts of integers. -/
def Group.isWritable (group : Group) : Bool :=
  group.rules.all Rule.isWritable &&
    (Value.ofFields group.parameters).isWritable &&
    (Value.ofFields group.globals).isWritable

theorem Rule.breakdown?_eq_some_iff
    {rule : Rule}
    {fatal : Pattern.Fatal} :
    rule.breakdown? = some fatal ↔
      ∃ negated source,
        rule.condition = .pattern negated source ∧
          Pattern.compile source = .error fatal := by
  unfold breakdown?
  cases rule.condition with
  | pattern negated source =>
      cases compiles : Pattern.compile source with
      | ok compiled =>
          simp [compiles]
      | error found =>
          simp [compiles]
  | equality negated expected =>
      simp
  | ordering order bound =>
      simp
  | membership negated items =>
      simp
  | presence negated =>
      simp

/-- What an evaluation tells of a rule and a fact: a problem does not come with a match. -/
structure Evaluation.Reports
    (evaluation : Evaluation)
    (group? : Option String)
    (rule : Rule)
    (fact? : Option Value) :
    Prop where
  fact : evaluation.fact? = fact?
  unmatched : evaluation.error?.isSome → evaluation.matched = false
  located :
    ∀ error ∈ evaluation.error?,
      error.group? = group? ∧ error.rule = rule.id ∧ error.path = rule.path.text
  rule : evaluation.rule = rule.id

theorem Rule.evaluation_reports
    (group? : Option String)
    (rule : Rule)
    (fact? : Option Value)
    (verdict : Except Problem Bool) :
    (rule.evaluation group? fact? verdict).Reports group? rule fact? := by
  cases verdict with
  | ok matched =>
      refine ⟨rfl, ?_, ?_, rfl⟩
      · exact fun hasError => nomatch hasError
      · exact fun error isError => nomatch isError
  | error problem =>
      refine ⟨rfl, fun _ => rfl, ?_, rfl⟩
      rintro error ⟨⟩
      exact ⟨rfl, rfl, rfl⟩

/-- The first find in a list is that in its first item or else that in the others. -/
theorem findSome?_cons_eq_or
    {α β : Type}
    (find? : α → Option β)
    (item : α)
    (rest : List α) :
    (item :: rest).findSome? find? = (find? item).or (rest.findSome? find?) := by
  rw [← List.singleton_append, List.findSome?_append, List.findSome?_singleton]

namespace Direct

/-- An outcome is a fault, if there is one, and otherwise a value. -/
inductive StopsAt : Option Pattern.Fatal → Except Failure α → Prop where
  | completed (value : α) : StopsAt none (.ok value)
  | stopped (fatal : Pattern.Fatal) :
      StopsAt (some fatal) (.error (.pattern fatal))

namespace StopsAt

variable {α β : Type} {fault? : Option Pattern.Fatal} {outcome : Except Failure α}

/-- The first fault of two computations in a row stops them. -/
theorem bind
    (first : StopsAt fault? outcome)
    {later? : Option Pattern.Fatal}
    {next : α → Except Failure β}
    (second : ∀ value, StopsAt later? (next value)) :
    StopsAt (fault?.or later?) (outcome >>= next) := by
  cases first with
  | completed value =>
      exact second value
  | stopped fatal =>
      exact .stopped fatal

/-- What is made of a value stops no computation. -/
theorem map
    (stops : StopsAt fault? outcome)
    (made : α → β) :
    StopsAt fault? (outcome >>= fun value => .ok (made value)) := by
  have composed := stops.bind fun value => .completed (made value)
  rwa [Option.or_none] at composed

theorem eq_error_iff
    (stops : StopsAt fault? outcome)
    {fatal : Pattern.Fatal} :
    outcome = .error (.pattern fatal) ↔ fault? = some fatal := by
  cases stops with
  | completed value =>
      simp
  | stopped found =>
      simp

theorem exists_eq_ok
    (stops : StopsAt none outcome) :
    ∃ value, outcome = .ok value := by
  cases stops with
  | completed value =>
      exact ⟨value, rfl⟩

end StopsAt

theorem stopsAt_verdict
    (rule : Rule)
    (fact? : Option Value) :
    StopsAt rule.breakdown? (rule.verdict compile fact?) := by
  unfold Rule.verdict Rule.breakdown?
  cases rule.condition with
  | pattern negated source =>
      dsimp only
      unfold compile
      cases Pattern.compile source with
      | ok compiled =>
          exact .completed _
      | error fatal =>
          exact .stopped fatal
  | equality negated expected =>
      exact .completed _
  | ordering order bound =>
      exact .completed _
  | membership negated items =>
      exact .completed _
  | presence negated =>
      exact .completed _

theorem stopsAt_evaluate
    (facts : Value)
    (group : String)
    (rule : Rule) :
    StopsAt rule.breakdown? (evaluate facts group rule) :=
  (stopsAt_verdict rule (rule.fact? facts)).map _

/-- Some rules stop at the first of them that does. -/
theorem stopsAt_evaluateAll
    (facts : Value)
    (group : String)
    (rules : List Rule) :
    StopsAt (rules.findSome? Rule.breakdown?)
      (Group.evaluateAll (evaluate facts group) rules) := by
  induction rules with
  | nil =>
      exact .completed []
  | cons rule rest inductionHypothesis =>
      rw [findSome?_cons_eq_or]
      exact (stopsAt_evaluate facts group rule).bind fun evaluation =>
        inductionHypothesis.map _

theorem stopsAt_membership
    (settings : Settings)
    (node : Node)
    (group : Group) :
    StopsAt (group.breakdown? settings.filtersEnvironments node)
      (membership settings node group) := by
  unfold membership Group.breakdown?
  rw [Group.membership_eq_judge]
  exact (stopsAt_evaluateAll _ _ _).map _

/-- It is decided on a group unless a rule that counts breaks down. -/
theorem exists_membership_of_breakdown?_eq_none
    {settings : Settings}
    {node : Node}
    {group : Group}
    (goesOn : group.breakdown? settings.filtersEnvironments node = none) :
    ∃ found, membership settings node group = .ok found := by
  have stops := stopsAt_membership settings node group
  rw [goesOn] at stops
  exact stops.exists_eq_ok

theorem stopsAt_examine
    (settings : Settings)
    (node : Node)
    (hierarchy : Hierarchy)
    (groups : List Group) :
    StopsAt
      (groups.findSome? (Group.breakdown? settings.filtersEnvironments node))
      (examine settings node hierarchy groups) := by
  induction groups with
  | nil =>
      exact .completed []
  | cons group rest inductionHypothesis =>
      rw [findSome?_cons_eq_or]
      exact (stopsAt_membership settings node group).bind fun membership =>
        inductionHypothesis.map _

/-- Merging what groups set does not break down, so that only examining them can. -/
theorem resolve_eq_pattern_iff
    {settings : Settings}
    {node : Node}
    {groupSet : GroupSet}
    {hierarchy : Hierarchy}
    {fatal : Pattern.Fatal} :
    resolve settings node groupSet hierarchy = .error (.pattern fatal) ↔
      (hierarchy.order.filterMap groupSet.find?).findSome?
          (Group.breakdown? settings.filtersEnvironments node) =
        some fatal := by
  have stops :=
    stopsAt_examine settings node hierarchy
      (hierarchy.order.filterMap groupSet.find?)
  rw [← stops.eq_error_iff]
  unfold resolve
  cases examine settings node hierarchy
      (hierarchy.order.filterMap groupSet.find?) with
  | error failure =>
      change Except.error failure = _ ↔ Except.error failure = _
      rw [Except.error.injEq, Except.error.injEq]
  | ok examined =>
      -- Only the merge is left to fail, and it has failures of its own.
      change ((mergeGroups _ _ _).mapError _ >>= _) = _ ↔ _
      cases mergeGroups (matched examined) hierarchy node.environment? with
      | error error =>
          constructor <;> exact nofun
      | ok merged =>
          constructor <;> exact nofun

/-- Where no rule that counts breaks down, a node is classified. -/
theorem exists_resolve_eq_ok
    {settings : Settings}
    {node : Node}
    {groupSet : GroupSet}
    (sound : groupSet.parents.Sound)
    (settle :
      ∀ group ∈ groupSet.groups,
        ∀ rule ∈ group.consulted settings.filtersEnvironments node,
          rule.breakdown? = none)
    (textKeys : ∀ group ∈ groupSet.groups, group.HasTextKeys) :
    ∃ resolved,
      resolve settings node groupSet groupSet.hierarchy = .ok resolved := by
  have decided :
      ∀ group ∈ groupSet.groups, ∃ found,
        membership settings node group = .ok found :=
    fun group member =>
      exists_membership_of_breakdown?_eq_none
        (List.findSome?_eq_none_iff.mpr (settle group member))
  obtain ⟨verdict, judged⟩ := exists_verdict decided
  obtain ⟨_, _, _, resolves⟩ := resolve_eq_ok sound judged textKeys
  exact ⟨_, resolves⟩

end Direct

namespace Engine

/-- Evaluate a rule, which may belong to a group, on a fact, which may be missing. -/
def evaluateOn
    (group? : Option String)
    (rule : Rule)
    (fact? : Option Value) :
    Action Evaluation := do
  let verdict ← rule.verdict compile fact?
  match verdict with
  | .ok _ =>
      pure ()
  | .error problem =>
      record (.ruleFailed problem.kind)
  return rule.evaluation group? fact? verdict

/-- A rule of a group is evaluated on the fact that it looks at. -/
theorem evaluate_eq_evaluateOn
    (facts : Value)
    (group : String)
    (rule : Rule) :
    evaluate facts group rule = evaluateOn (some group) rule (rule.fact? facts) :=
  rfl

theorem Yields.evaluateOn
    (group? : Option String)
    (rule : Rule)
    (fact? : Option Value) :
    Yields (Engine.evaluateOn group? rule fact?)
      (rule.verdict Direct.compile fact? >>= fun verdict =>
        .ok (rule.evaluation group? fact? verdict)) := by
  refine (verdict rule fact?).bind ?_
  intro verdict _
  cases verdict with
  | ok matched =>
      exact after (.pure ()) (.pure _)
  | error problem =>
      exact after (record _) (.pure _)

/--
A rule is evaluated whatever the fact is, unless compiling its pattern breaks down;
then it is evaluated on no fact.  Under an accepted group set a node is classified
unless a rule that counts breaks down, and then it fails with the fault of the first.
All of this is about rules, facts and payloads that keep the limit for texts of
integers: where the text of a longer one is asked for, making it breaks down.
-/
theorem evaluates_or_breaksDown
    {engine : Engine}
    {settings : Settings}
    {groupSet : GroupSet}
    {hierarchy : Hierarchy}
    (sound : engine.patterns.Sound)
    (accepted : groupSet.validate (limits settings) = .ok hierarchy)
    (served : (engine.hierarchies.request groupSet).1 = .ok hierarchy) :
    (∀ (group? : Option String) (rule : Rule) (fact? : Option Value),
        (∀ fatal,
          (engine.run (evaluateOn group? rule fact?)).1 =
              .error (.pattern fatal) ↔
            ∃ negated source,
              rule.condition = .pattern negated source ∧
                Pattern.compile source = .error fatal) ∧
          (rule.breakdown? = none →
            rule.isWritable = true →
            (∀ fact ∈ fact?, fact.isWritable = true) →
            ∃ evaluation,
              (engine.run (evaluateOn group? rule fact?)).1 =
                  .ok evaluation ∧
                evaluation.Reports group? rule fact?)) ∧
      ∀ node : Node,
        (Value.ofFields node.facts).isWritable = true →
        (∀ group ∈ groupSet.groups, group.isWritable = true) →
        (∀ fatal,
          (engine.run (classify settings node groupSet)).1 =
              .error (.pattern fatal) ↔
            groupSet.ordered.findSome?
                (Group.breakdown? settings.filtersEnvironments node) =
              some fatal) ∧
          ((∀ group ∈ groupSet.groups,
              ∀ rule ∈ group.consulted settings.filtersEnvironments node,
                rule.breakdown? = none) →
            (∀ group ∈ groupSet.groups, group.HasTextKeys) →
            ∃ resolved,
              (engine.run (classify settings node groupSet)).1 =
                .ok resolved) := by
  refine ⟨fun group? rule fact? => ?_, fun node _ _ => ?_⟩
  · have stops := Direct.stopsAt_verdict rule fact?
    rw [(Yields.evaluateOn group? rule fact? engine sound).1]
    refine ⟨fun fatal => ?stopped, fun goesOn _ _ => ?completed⟩
    case stopped =>
      exact (stops.map _).eq_error_iff.trans Rule.breakdown?_eq_some_iff
    case completed =>
      rw [goesOn] at stops
      obtain ⟨verdict, given⟩ := stops.exists_eq_ok
      rw [given]
      exact ⟨_, rfl, rule.evaluation_reports group? fact? verdict⟩
  · have isSound := GroupSet.sound_of_validate accepted
    rw [(Consults.classify settings node groupSet engine sound).1, served,
      GroupSet.hierarchy_of_validate accepted]
    exact ⟨fun fatal => Direct.resolve_eq_pattern_iff,
      Direct.exists_resolve_eq_ok isSound⟩

end Engine

/-- A rule that repeats a character breaks down if something is wrong with the number. -/
theorem Rule.breakdown?_repeating
    (id : String)
    (path : FactPath)
    (negated : Bool)
    (number : Nat) :
    (Rule.mk id path (.pattern negated (Pattern.repeating number))).breakdown? =
      Pattern.boundFault? number := by
  unfold breakdown?
  dsimp only
  rw [Pattern.compile_repeating]
  cases Pattern.boundFault? number <;> rfl

namespace Sample

/-- A number of repetitions that is out of all bounds. -/
def vast : Nat :=
  99999999999999999999

theorem boundFault?_vast :
    Pattern.boundFault? vast = some .repetitionTooLarge := by
  decide

/-- A rule that asks for that many repetitions. -/
def vastRule : Rule :=
  ⟨"r1", rolePath, .pattern false (Pattern.repeating vast)⟩

/-- A group with the rule, to which one node is pinned. -/
def vastGroup : Group :=
  { Group.empty "vast" with
    rules := [vastRule],
    pinnedNodes := ["node1"] }

/-- The group alone. -/
def vastSet : GroupSet :=
  ⟨[vastGroup], "v1"⟩

theorem vastSet_accepted :
    vastSet.validate (Engine.limits {}) = .ok vastSet.hierarchy := by
  cbv

theorem breakdown?_vastRule :
    vastRule.breakdown? = some .repetitionTooLarge :=
  (Rule.breakdown?_repeating ..).trans boundFault?_vast

theorem vastSet_served :
    ((Engine.fresh {} .zero).hierarchies.request vastSet).1 =
      .ok vastSet.hierarchy :=
  (HierarchyCache.request_of_find?_eq_none rfl).trans vastSet_accepted

theorem vastSet_hasTextKeys :
    ∀ group ∈ vastSet.groups, group.HasTextKeys :=
  List.forall_mem_singleton.mpr ⟨nofun, nofun⟩

theorem vastSet_isWritable :
    ∀ group ∈ vastSet.groups, group.isWritable = true :=
  List.forall_mem_singleton.mpr rfl

/-- A node that no group of the set pins. -/
def unpinned : Node :=
  ⟨"node2", [], none⟩

end Sample

/-- The rule stops the classification of every node but the pinned one. -/
theorem Engine.evaluates_or_breaksDown_vast :
    (Engine.fresh {} .zero).patterns.Sound ∧
      Sample.vastSet.validate (Engine.limits {}) =
        .ok Sample.vastSet.hierarchy ∧
      ((Engine.fresh {} .zero).hierarchies.request Sample.vastSet).1 =
        .ok Sample.vastSet.hierarchy ∧
      ((Engine.fresh {} .zero).run
          (Engine.classify {} Sample.unpinned Sample.vastSet)).1 =
        .error (.pattern .repetitionTooLarge) ∧
      ∃ resolved,
        ((Engine.fresh {} .zero).run
            (Engine.classify {} Sample.node Sample.vastSet)).1 =
          .ok resolved := by
  have sound := Engine.sound_fresh {} .zero
  obtain ⟨_, classifies⟩ :=
    Engine.evaluates_or_breaksDown sound Sample.vastSet_accepted
      Sample.vastSet_served
  have breaksDown :
      Sample.vastSet.ordered.findSome?
          (Group.breakdown? true Sample.unpinned) =
        some .repetitionTooLarge := by
    have ordered :=
      List.perm_singleton.mp
        (GroupSet.ordered_perm (GroupSet.sound_of_validate Sample.vastSet_accepted))
    rw [ordered, List.findSome?_singleton]
    exact (List.findSome?_singleton ..).trans Sample.breakdown?_vastRule
  have goesOn :
      ∀ group ∈ Sample.vastSet.groups,
        ∀ rule ∈ group.consulted true Sample.node,
          rule.breakdown? = none :=
    List.forall_mem_singleton.mpr nofun
  exact ⟨sound, Sample.vastSet_accepted, Sample.vastSet_served,
    ((classifies Sample.unpinned rfl Sample.vastSet_isWritable).1 _).mpr breaksDown,
    (classifies Sample.node rfl Sample.vastSet_isWritable).2 goesOn
      Sample.vastSet_hasTextKeys⟩

/-- A rule that is accepted, but that can be evaluated neither on a fact nor on a missing one. -/
theorem Engine.evaluateOn_vast :
    ∃ rule,
      Rule.read (.numbered 1) Sample.vastRule.toPlain = .valid rule ∧
        ∀ fact?,
          ((Engine.fresh {} .zero).run
              (Engine.evaluateOn none rule fact?)).1 =
            .error (.pattern .repetitionTooLarge) := by
  have trimmed :
      Text.strip Sample.vastRule.path.text = Sample.vastRule.path.text := by
    cbv
  refine ⟨Sample.vastRule, Rule.read_toPlain trimmed (.numbered 1), fun fact? => ?_⟩
  have stops := Direct.stopsAt_verdict Sample.vastRule fact?
  rw [(Yields.evaluateOn none Sample.vastRule fact? _ (sound_fresh {} .zero)).1]
  exact (stops.map _).eq_error_iff.mpr Sample.breakdown?_vastRule

end FleetConfig
