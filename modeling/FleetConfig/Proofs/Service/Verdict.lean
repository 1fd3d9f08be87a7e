import FleetConfig.Proofs.Service.Breakdown

/-!
# What rules find

An evaluation reports a problem exactly if the rule is defective or cannot use the
fact, and then it does not match.  A fact that is missing matches only when its
absence is asked for.  On a fact that is there a condition and its opposite never
match together, and one of them matches unless there is a problem.
-/

namespace FleetConfig

/-- The values that have no text are `null`, lists and maps. -/
theorem Value.text?_eq_none_iff
    {value : Value} :
    value.text? = none ↔
      value = .null ∨
        (∃ items, value = .list items) ∨
        ∃ entries, value = .map entries := by
  cases value with
  | scalar scalar =>
      cases scalar <;> simp [text?, Scalar.text?, Value.null]
  | list items =>
      simp [text?, Value.null]
  | map entries =>
      simp [text?, Value.null]

/-- Asking for the opposite turns an answer around. -/
theorem opposite_not
    (negated answer : Bool) :
    opposite (!negated) answer = !opposite negated answer := by
  cases negated <;> simp [opposite]

namespace Rule

/--
A rule shows a problem of a kind on a fact, which may be missing.  Its pattern is
invalid; or its pattern is valid, but the fact is `null`, a list or a map; or its
bound is not numeric, or the fact is not.
-/
def Shows
    (rule : Rule)
    (fact? : Option Value) :
    ProblemKind → Prop
  | .badPattern =>
      ∃ negated source invalid,
        rule.condition = .pattern negated source ∧
          Pattern.compile source = .ok (.error invalid)
  | .unusableFact =>
      ∃ negated source pattern fact,
        rule.condition = .pattern negated source ∧
          Pattern.compile source = .ok (.ok pattern) ∧
          fact? = some fact ∧
          (fact = .null ∨
            (∃ items, fact = .list items) ∨
            ∃ entries, fact = .map entries)
  | .notNumeric =>
      ∃ order bound,
        rule.condition = .ordering order bound ∧
          (bound.number? = none ∨
            ∃ fact, fact? = some fact ∧ fact.number? = none)

end Rule

namespace Evaluation

/-- The kind of the problem that an evaluation reports, if it reports one. -/
def problemKind? (evaluation : Evaluation) : Option ProblemKind :=
  evaluation.error?.map fun error => error.problem.kind

/-- What an evaluation of a rule on a fact, which may be missing, reports. -/
structure Judges
    (evaluation : Evaluation)
    (rule : Rule)
    (fact? : Option Value) :
    Prop where
  problem :
    ∀ kind, evaluation.problemKind? = some kind ↔ rule.Shows fact? kind
  settled :
    evaluation.error? = none ↔ ∀ kind, ¬ rule.Shows fact? kind
  unmatched :
    evaluation.error? ≠ none →
    evaluation.matched = false
  absent :
    fact? = none →
    (evaluation.matched = true ↔ rule.condition = .presence true)

end Evaluation

namespace Rule

section Shows

variable {rule : Rule} {fact? : Option Value} {kind : ProblemKind}

theorem shows_pattern_iff
    {negated : Bool}
    {source : String}
    {compiled : Compiled}
    (isPattern : rule.condition = .pattern negated source)
    (compiles : Pattern.compile source = .ok compiled) :
    rule.Shows fact? kind ↔
      match compiled with
      | .error _ =>
          kind = .badPattern
      | .ok _ =>
          kind = .unusableFact ∧ ∃ fact, fact? = some fact ∧ fact.text? = none := by
  cases kind with
  | badPattern =>
      cases compiled <;> simp [Shows, isPattern, compiles]
  | unusableFact =>
      cases compiled <;> simp [Shows, isPattern, compiles, Value.text?_eq_none_iff]
  | notNumeric =>
      cases compiled <;> simp [Shows, isPattern]

theorem shows_ordering_iff
    {order : Order}
    {bound : Scalar}
    (isOrdering : rule.condition = .ordering order bound) :
    rule.Shows fact? kind ↔
      kind = .notNumeric ∧
        (bound.number? = none ∨
          ∃ fact, fact? = some fact ∧ fact.number? = none) := by
  cases kind with
  | badPattern =>
      simp [Shows, isOrdering]
  | unusableFact =>
      simp [Shows, isOrdering]
  | notNumeric =>
      simp [Shows, isOrdering]

/-- Without a pattern or a bound a rule shows no problem. -/
theorem not_shows
    (noPattern : ∀ negated source, rule.condition ≠ .pattern negated source)
    (noBound : ∀ order bound, rule.condition ≠ .ordering order bound) :
    ¬ rule.Shows fact? kind := by
  cases kind with
  | badPattern =>
      simp [Shows, noPattern]
  | unusableFact =>
      simp [Shows, noPattern]
  | notNumeric =>
      simp [Shows, noBound]

end Shows

section Judging

variable {rule : Rule} {fact? : Option Value}

/-- A verdict is recorded with the problem that it names. -/
theorem judges_of_problem
    (group? : Option String)
    {verdict : Except Problem Bool}
    (problem :
      ∀ kind,
        (rule.evaluation group? fact? verdict).problemKind? = some kind ↔
          rule.Shows fact? kind)
    (absent :
      fact? = none →
      ((rule.evaluation group? fact? verdict).matched = true ↔
        rule.condition = .presence true)) :
    (rule.evaluation group? fact? verdict).Judges rule fact? where
  problem := problem
  settled := by
    simp only [← problem]
    cases verdict with
    | ok matched =>
        exact ⟨fun _ _ => nofun, fun _ => rfl⟩
    | error found =>
        exact ⟨nofun, fun none => absurd rfl (none found.kind)⟩
  unmatched := by
    cases verdict with
    | ok matched =>
        exact fun hasError => absurd rfl hasError
    | error found =>
        exact fun _ => rfl
  absent := absent

theorem judges_patternVerdict
    (group? : Option String)
    {negated : Bool}
    {source : String}
    {compiled : Compiled}
    (isPattern : rule.condition = .pattern negated source)
    (compiles : Pattern.compile source = .ok compiled) :
    (rule.evaluation group? fact?
          (patternVerdict rule.path.text negated source compiled
            fact?)).Judges
      rule fact? := by
  apply judges_of_problem
  · intro kind
    rw [shows_pattern_iff isPattern compiles]
    unfold patternVerdict
    cases compiled with
    | error invalid =>
        simp [evaluation, Evaluation.problemKind?, Problem.kind, eq_comm]
    | ok pattern =>
        cases fact? with
        | none =>
            simp [evaluation, Evaluation.problemKind?]
        | some fact =>
            dsimp only
            cases hasText : fact.text? with
            | none =>
                simp [evaluation, Evaluation.problemKind?, Problem.kind, hasText, eq_comm]
            | some text =>
                simp [evaluation, Evaluation.problemKind?, hasText]
  · rintro rfl
    rw [isPattern]
    unfold patternVerdict
    cases compiled with
    | error invalid =>
        simp [evaluation]
    | ok pattern =>
        simp [evaluation]

theorem judges_orderingVerdict
    (group? : Option String)
    {order : Order}
    {bound : Scalar}
    (isOrdering : rule.condition = .ordering order bound) :
    (rule.evaluation group? fact?
          (orderingVerdict rule.path.text order bound fact?)).Judges
      rule fact? := by
  apply judges_of_problem
  · intro kind
    rw [shows_ordering_iff isOrdering]
    unfold orderingVerdict
    cases numeric : bound.number? with
    | none =>
        simp [evaluation, Evaluation.problemKind?, Problem.kind, eq_comm]
    | some expected =>
        cases fact? with
        | none =>
            simp [evaluation, Evaluation.problemKind?]
        | some fact =>
            dsimp only
            cases actual : fact.number? with
            | none =>
                simp [evaluation, Evaluation.problemKind?, Problem.kind, actual, eq_comm]
            | some number =>
                simp [evaluation, Evaluation.problemKind?, actual]
  · rintro rfl
    rw [isOrdering]
    unfold orderingVerdict
    cases bound.number? with
    | none =>
        simp [evaluation]
    | some expected =>
        simp [evaluation]

/-- Without a pattern or a bound the verdict is all that is recorded. -/
theorem judges_of_neither
    (group? : Option String)
    {matched : Bool}
    (noPattern : ∀ negated source, rule.condition ≠ .pattern negated source)
    (noBound : ∀ order bound, rule.condition ≠ .ordering order bound)
    (absent :
      fact? = none →
      (matched = true ↔ rule.condition = .presence true)) :
    (rule.evaluation group? fact? (.ok matched)).Judges rule fact? := by
  apply judges_of_problem
  · intro kind
    have none : ¬ rule.Shows fact? kind := not_shows noPattern noBound
    exact ⟨nofun, fun bad => absurd bad none⟩
  · exact absent

/-- Whatever verdict a rule comes to, it is judged rightly. -/
theorem judges_of_verdict
    (group? : Option String)
    {verdict : Except Problem Bool}
    (given : rule.verdict Direct.compile fact? = .ok verdict) :
    (rule.evaluation group? fact? verdict).Judges rule fact? := by
  unfold Rule.verdict at given
  cases condition : rule.condition with
  | pattern negated source =>
      rw [condition] at given
      dsimp only at given
      unfold Direct.compile at given
      cases compiles : Pattern.compile source with
      | error fatal =>
          rw [compiles] at given
          cases given
      | ok compiled =>
          rw [compiles] at given
          cases given
          exact judges_patternVerdict group? condition compiles
  | ordering order bound =>
      rw [condition] at given
      cases given
      exact judges_orderingVerdict group? condition
  | equality negated expected =>
      rw [condition] at given
      cases given
      apply judges_of_neither group? (by simp [condition]) (by simp [condition])
      rintro rfl
      simp [condition]
  | membership negated items =>
      rw [condition] at given
      cases given
      apply judges_of_neither group? (by simp [condition]) (by simp [condition])
      rintro rfl
      simp [condition]
  | presence negated =>
      rw [condition] at given
      cases given
      apply judges_of_neither group? (by simp [condition]) (by simp [condition])
      rintro rfl
      cases negated <;> simp [condition, opposite]

end Judging

end Rule

namespace Condition

/-- The condition that asks for the opposite; comparisons with a bound have none. -/
def opposite? : Condition → Option Condition
  | .equality negated expected =>
      some (.equality (!negated) expected)
  | .pattern negated source =>
      some (.pattern (!negated) source)
  | .ordering _ _ =>
      none
  | .membership negated items =>
      some (.membership (!negated) items)
  | .presence negated =>
      some (.presence (!negated))

/--
A condition is decided on a fact, which may be missing: whatever engine with sound
patterns evaluates a rule with the condition, for a group or for none, there is an
evaluation without a problem, and it matches exactly if `holds`.
-/
def Decides
    (condition : Condition)
    (fact? : Option Value)
    (holds : Prop) :
    Prop :=
  ∀ (engine : Engine) (group? : Option String) (id : String) (path : FactPath),
    engine.patterns.Sound →
    ∃ evaluation,
      (engine.run
            (Engine.evaluateOn group? ⟨id, path, condition⟩ fact?)).1 =
          .ok evaluation ∧
        evaluation.error? = none ∧
        (evaluation.matched = true ↔ holds)

/-- Rules with the condition match the fact. -/
def Matches
    (condition : Condition)
    (fact : Value) :
    Prop :=
  condition.Decides (some fact) True

/-- Rules with the condition do not match the fact, and have no problem with it. -/
def Misses
    (condition : Condition)
    (fact : Value) :
    Prop :=
  condition.Decides (some fact) False

section Deciding

variable
  {condition other : Condition} {fact? : Option Value} {fact : Value}
  {matched : Bool} {holds holds' : Prop}

theorem decides_of_verdict
    (given :
      ∀ id path,
        (Rule.mk id path condition).verdict Direct.compile fact? =
          .ok (.ok matched)) :
    condition.Decides fact? (matched = true) := by
  intro engine group? id path sound
  have yields :=
    (Engine.Yields.evaluateOn group? ⟨id, path, condition⟩ fact? engine sound).1
  rw [given] at yields
  exact ⟨_, yields, rfl, .rfl⟩

/-- A condition is decided in one way only, since there are engines to evaluate it. -/
theorem Decides.iff
    (one : condition.Decides fact? holds)
    (another : condition.Decides fact? holds') :
    holds ↔ holds' := by
  have sound := Engine.sound_fresh {} .zero
  obtain ⟨evaluation, given, _, first⟩ := one _ none "" Sample.rolePath sound
  obtain ⟨other, same, _, second⟩ := another _ none "" Sample.rolePath sound
  rw [given] at same
  cases same
  exact first.symm.trans second

theorem Decides.congr
    (decides : condition.Decides fact? holds)
    (same : holds ↔ holds') :
    condition.Decides fact? holds' := by
  intro engine group? id path sound
  obtain ⟨evaluation, given, settled, found⟩ :=
    decides engine group? id path sound
  exact ⟨evaluation, given, settled, found.trans same⟩

theorem Decides.matches_iff
    (decides : condition.Decides (some fact) holds) :
    condition.Matches fact ↔ holds := by
  constructor
  · intro matches'
    exact (decides.iff matches').mpr trivial
  · intro held
    exact decides.congr (iff_true_intro held)

theorem Decides.misses_iff
    (decides : condition.Decides (some fact) holds) :
    condition.Misses fact ↔ ¬ holds := by
  constructor
  · intro misses held
    exact (decides.iff misses).mp held
  · intro fails
    exact decides.congr (iff_false_intro fails)

/-- A pattern is found in a fact or it is not found, if both can be told. -/
theorem patternVerdict_opposite
    {path source : String}
    {negated : Bool}
    {compiled : Compiled}
    (found :
      Rule.patternVerdict path negated source compiled (some fact) = .ok matched)
    (otherPath : String) :
    Rule.patternVerdict otherPath (!negated) source compiled (some fact) =
      .ok !matched := by
  unfold Rule.patternVerdict at found ⊢
  cases compiled with
  | error invalid =>
      cases found
  | ok pattern =>
      dsimp only at found ⊢
      cases hasText : fact.text? with
      | none =>
          rw [hasText] at found
          cases found
      | some text =>
          rw [hasText] at found
          cases found
          dsimp only
          rw [opposite_not]

/-- Where a condition is decided, its opposite is decided the other way. -/
theorem verdict_opposite
    (isOpposite : condition.opposite? = some other)
    {id : String}
    {path : FactPath}
    (given :
      (Rule.mk id path condition).verdict Direct.compile (some fact) =
        .ok (.ok matched))
    (otherId : String)
    (otherPath : FactPath) :
    (Rule.mk otherId otherPath other).verdict Direct.compile (some fact) =
      .ok (.ok !matched) := by
  cases condition with
  | equality negated expected =>
      cases isOpposite
      cases given
      simp [Rule.verdict, opposite_not]
      rfl
  | membership negated items =>
      cases isOpposite
      cases given
      simp [Rule.verdict, opposite_not]
      rfl
  | presence negated =>
      cases isOpposite
      cases given
      simp [Rule.verdict, opposite_not]
      rfl
  | ordering order bound =>
      cases isOpposite
  | pattern negated source =>
      cases isOpposite
      unfold Rule.verdict at given ⊢
      dsimp only at given ⊢
      cases compiles : Direct.compile source with
      | error failure =>
          rw [compiles] at given
          cases given
      | ok compiled =>
          rw [compiles] at given
          have found :
              Rule.patternVerdict path.text negated source compiled
                  (some fact) =
                .ok matched :=
            Except.ok.inj given
          exact congrArg Except.ok (patternVerdict_opposite found otherPath.text)

/-- An equality is decided by comparing the fact with what is expected. -/
theorem decides_equality
    (negated : Bool)
    (expected : Scalar)
    (fact : Value) :
    (Condition.equality negated expected).Decides (some fact)
      (opposite negated (fact.alike (.scalar expected)) = true) :=
  decides_of_verdict fun _ _ => rfl

/-- A comparison of a number with a bound that is one is decided by the two numbers. -/
theorem decides_ordering
    {order : Order}
    {bound : Scalar}
    {actual expected : Number}
    (isActual : fact.number? = some actual)
    (isBound : bound.number? = some expected) :
    (Condition.ordering order bound).Decides (some fact)
      (order.holds actual expected = true) := by
  refine decides_of_verdict fun id path => ?_
  unfold Rule.verdict Rule.orderingVerdict
  dsimp only
  rw [isBound]
  dsimp only
  rw [isActual]
  rfl

end Deciding

end Condition

/--
A rule that is evaluated reports a problem exactly if it shows one, and then it does
not match; on a fact that is missing it matches only if it asks for that.  On a fact
that is there, and without a problem, the opposite condition is decided the other
way, and a list holds the fact exactly if the fact equals one of its items.
-/
theorem Engine.evaluateOn_judges
    {engine : Engine}
    {group? : Option String}
    {rule : Rule}
    {fact? : Option Value}
    {evaluation : Evaluation}
    (sound : engine.patterns.Sound)
    (evaluated :
      (engine.run (evaluateOn group? rule fact?)).1 = .ok evaluation) :
    evaluation.Judges rule fact? ∧
      ∀ fact,
        fact? = some fact →
        (evaluation.error? = none →
          ∀ condition,
            rule.condition.opposite? = some condition →
            condition.Decides fact? (evaluation.matched = false)) ∧
          ∀ items,
            rule.condition = .membership false items →
            (evaluation.matched = true ↔
              ∃ item ∈ items, (Condition.equality false item).Matches fact) := by
  rw [(Yields.evaluateOn group? rule fact? engine sound).1] at evaluated
  cases given : rule.verdict Direct.compile fact? with
  | error failure =>
      rw [given] at evaluated
      cases evaluated
  | ok verdict =>
      rw [given] at evaluated
      cases evaluated
      refine ⟨rule.judges_of_verdict group? given, ?_⟩
      rintro fact rfl
      refine ⟨fun settled condition isOpposite => ?_, fun items isMembership => ?_⟩
      · cases verdict with
        | error problem =>
            cases settled
        | ok matched =>
            exact (Condition.decides_of_verdict
              (Condition.verdict_opposite isOpposite given)).congr (by simp [Rule.evaluation])
      · unfold Rule.verdict at given
        rw [isMembership] at given
        cases given
        have equals :
            ∀ item,
              (Condition.equality false item).Matches fact ↔
                fact.alike (.scalar item) = true :=
          fun item => (Condition.decides_equality false item fact).matches_iff
        simp [Rule.evaluation, equals, opposite]

namespace Sample

/-- A rule that asks for one of two versions, which are given as a number and as a text. -/
def versionRule : Rule :=
  ⟨"r1", rolePath, .membership false [.integer 8, .text "nine"]⟩

theorem versionRule_evaluated :
    ((Engine.fresh {} .zero).run
          (Engine.evaluateOn none versionRule (some (.text "nine")))).1 =
      .ok ⟨"r1", true, some (.text "nine"), none⟩ := by
  cbv

end Sample

/-- The second version is found in the list, so that it is not found missing from it. -/
theorem Engine.evaluateOn_judges_sample :
    (Engine.fresh {} .zero).patterns.Sound ∧
      ((Engine.fresh {} .zero).run
            (Engine.evaluateOn none Sample.versionRule
              (some (.text "nine")))).1 =
        .ok ⟨"r1", true, some (.text "nine"), none⟩ ∧
      (Evaluation.mk "r1" true (some (.text "nine")) none).Judges
        Sample.versionRule (some (.text "nine")) ∧
      (Condition.membership true [.integer 8, .text "nine"]).Misses
        (.text "nine") ∧
      ∃ item ∈ [Scalar.integer 8, .text "nine"],
        (Condition.equality false item).Matches (.text "nine") := by
  have sound := Engine.sound_fresh {} .zero
  have evaluated := Sample.versionRule_evaluated
  obtain ⟨judges, onFact⟩ := Engine.evaluateOn_judges sound evaluated
  obtain ⟨opposed, listed⟩ := onFact (.text "nine") rfl
  exact ⟨sound, evaluated, judges,
    (opposed rfl _ rfl).congr (by simp), (listed _ rfl).mp rfl⟩

end FleetConfig
