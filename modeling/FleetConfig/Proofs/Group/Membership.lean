import FleetConfig.Group.Membership
import Mathlib.Data.List.Forall2

/-!
# Membership in two steps

Whether a node belongs to a group is found in two steps, however rules are
evaluated: the rules that count are evaluated in order, and then the evaluations
are judged.  No rules count for a node that is pinned or shut out.
-/

namespace FleetConfig

private theorem bind_eq_ok_iff
    {first : Except ε α}
    {next : α → Except ε β}
    {value : β} :
    (first >>= next) = .ok value ↔
      ∃ between, first = .ok between ∧ next between = .ok value := by
  cases first with
  | error error =>
      constructor
      · intro given
        contradiction
      · rintro ⟨_, given, _⟩
        contradiction
  | ok between =>
      constructor
      · intro given
        exact ⟨between, rfl, given⟩
      · rintro ⟨_, same, given⟩
        cases same
        exact given

namespace Group

/-- The rules of a group that count for a node. -/
def consulted
    (filtering : Bool)
    (node : Node)
    (group : Group) :
    List Rule :=
  if group.isPinned node.certname ||
      (filtering && group.excludes node.environment?) then
    []
  else
    group.rules

/-- What the evaluations of the rules that count come to. -/
def judge
    (filtering : Bool)
    (node : Node)
    (group : Group)
    (evaluations : List Evaluation) :
    Membership :=
  if group.isPinned node.certname then
    ⟨group.id, some .pinned, evaluations, false⟩
  else if filtering && group.excludes node.environment? then
    ⟨group.id, none, evaluations, true⟩
  else if group.rules.isEmpty then
    ⟨group.id, if group.matchesAllNodes then some .matchAll else none,
      evaluations, false⟩
  else
    ⟨group.id,
      if combine group.matchType evaluations then some .rules else none,
      evaluations, false⟩

theorem consulted_subset
    (filtering : Bool)
    (node : Node)
    (group : Group) :
    group.consulted filtering node ⊆ group.rules := by
  unfold consulted
  split
  case isTrue =>
    exact List.nil_subset _
  case isFalse =>
    exact List.Subset.refl _

theorem evaluations_judge
    (filtering : Bool)
    (node : Node)
    (group : Group)
    (evaluations : List Evaluation) :
    (group.judge filtering node evaluations).evaluations = evaluations := by
  unfold judge
  repeat' split
  all_goals rfl

/-- Deciding on membership is evaluating the rules that count and judging. -/
theorem membership_eq_judge
    {m : Type → Type}
    [Monad m]
    [LawfulMonad m]
    (evaluate : Rule → m Evaluation)
    (filtering : Bool)
    (node : Node)
    (group : Group) :
    group.membership evaluate filtering node =
      evaluateAll evaluate (group.consulted filtering node) >>=
        fun evaluations => pure (group.judge filtering node evaluations) := by
  unfold membership judge consulted
  -- In each case but the last no rule counts, and evaluating none changes nothing.
  cases pinned : group.isPinned node.certname with
  | true =>
      simp [evaluateAll]
  | false =>
      cases excluded : filtering && group.excludes node.environment? with
      | true =>
          simp [evaluateAll]
      | false =>
          cases empty : group.rules.isEmpty with
          | true =>
              simp [evaluateAll, List.isEmpty_iff.mp empty]
          | false =>
              simp

/-- Evaluating rules one after the other gives the evaluation of each. -/
theorem evaluateAll_eq_ok_iff
    {evaluate : Rule → Except ε Evaluation}
    {rules : List Rule}
    {evaluations : List Evaluation} :
    evaluateAll evaluate rules = .ok evaluations ↔
      List.Forall₂ (fun rule evaluation => evaluate rule = .ok evaluation)
        rules evaluations := by
  induction rules generalizing evaluations with
  | nil =>
      rw [List.forall₂_nil_left_iff]
      exact ⟨fun given => (Except.ok.inj given).symm,
        fun empty => congrArg Except.ok empty.symm⟩
  | cons rule rest inductionHypothesis =>
      unfold evaluateAll
      rw [bind_eq_ok_iff, List.forall₂_cons_left_iff]
      constructor
      · rintro ⟨evaluation, first, given⟩
        obtain ⟨others, restGiven, together⟩ := bind_eq_ok_iff.mp given
        exact ⟨evaluation, others, first,
          inductionHypothesis.mp restGiven, (Except.ok.inj together).symm⟩
      · rintro ⟨evaluation, others, first, each, rfl⟩
        exact ⟨evaluation, first, bind_eq_ok_iff.mpr
          ⟨others, inductionHypothesis.mpr each, rfl⟩⟩

/-- If each of some rules is evaluated, all of them are. -/
theorem exists_evaluateAll
    {evaluate : Rule → Except ε Evaluation}
    {rules : List Rule}
    (each : ∀ rule ∈ rules, ∃ evaluation, evaluate rule = .ok evaluation) :
    ∃ evaluations, evaluateAll evaluate rules = .ok evaluations := by
  induction rules with
  | nil =>
      exact ⟨[], rfl⟩
  | cons rule rest inductionHypothesis =>
      obtain ⟨evaluation, first⟩ := each rule List.mem_cons_self
      obtain ⟨others, restGiven⟩ := inductionHypothesis fun other member =>
        each other (List.mem_cons_of_mem rule member)
      unfold evaluateAll
      rw [first, restGiven]
      exact ⟨evaluation :: others, rfl⟩

/--
The evaluations that a membership comes with are those of the rules that count,
in order.
-/
theorem forall₂_evaluations
    {evaluate : Rule → Except ε Evaluation}
    {filtering : Bool}
    {node : Node}
    {group : Group}
    {membership : Membership}
    (given : group.membership evaluate filtering node = .ok membership) :
    List.Forall₂ (fun rule evaluation => evaluate rule = .ok evaluation)
      (group.consulted filtering node) membership.evaluations := by
  rw [membership_eq_judge, bind_eq_ok_iff] at given
  obtain ⟨evaluations, each, judged⟩ := given
  cases judged
  rw [evaluations_judge]
  exact evaluateAll_eq_ok_iff.mp each

end Group

end FleetConfig
