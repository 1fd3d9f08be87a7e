import FleetConfig.Proofs.Service.Breakdown

/-!
# Who belongs to a group

A node that is pinned to a group belongs to it, and to any other node from another
environment the group is closed.  About a node that is neither pinned nor shut out the
rules are asked, and all of them are evaluated, each once and in order: what they come
to does not depend on that order, and one more rule adds its own verdict.
-/

namespace FleetConfig

/-- An evaluation says that its rule holds, and that there was no problem. -/
def Evaluation.Affirms (evaluation : Evaluation) : Prop :=
  evaluation.matched = true ∧ evaluation.error? = none

namespace Group

/-- A group is closed to a node: it has an environment of its own, which is not the node's. -/
structure ClosedTo
    (group : Group)
    (node : Node) :
    Prop where
  notAssigned : group.assignsEnvironment = false
  elsewhere :
    ∃ environment,
      group.environment? = some environment ∧
        node.environment? ≠ some environment

/-- The rules of a group are asked about a node: it is neither pinned nor shut out. -/
structure Asks
    (group : Group)
    (filtering : Bool)
    (node : Node) :
    Prop where
  unpinned : node.certname ∉ group.pinnedNodes
  notClosed : filtering = true → ¬ group.ClosedTo node

/-- The rules of a group agree that a node belongs to it, given what each of them finds. -/
def Agrees
    (group : Group)
    (find : Rule → Evaluation) :
    Prop :=
  match group.matchType with
  | .all =>
      ∀ rule ∈ group.rules, (find rule).Affirms
  | .any =>
      ∃ rule ∈ group.rules, (find rule).Affirms

end Group

/-- How the membership of a node in a group is decided, given what each rule finds. -/
structure Membership.DecidedBy
    (membership : Membership)
    (find : Rule → Evaluation)
    (filtering : Bool)
    (node : Node)
    (group : Group) :
    Prop where
  ofGroup : membership.group = group.id
  pinned :
    node.certname ∈ group.pinnedNodes →
    membership.reason? = some .pinned
  filtered :
    membership.filtered = true ↔
      node.certname ∉ group.pinnedNodes ∧
        filtering = true ∧
        group.ClosedTo node
  shutOut :
    membership.filtered = true →
    membership.reason? = none
  unruled :
    group.Asks filtering node →
    group.rules = [] →
    ∀ reason,
      membership.reason? = some reason ↔
        reason = .matchAll ∧ group.matchesAllNodes = true
  ruled :
    group.Asks filtering node →
    group.rules ≠ [] →
    ∀ reason,
      membership.reason? = some reason ↔
        reason = .rules ∧ group.Agrees find
  evaluated :
    group.Asks filtering node →
    membership.evaluations = group.rules.map find
  notEvaluated :
    ¬ group.Asks filtering node →
    membership.evaluations = []
  quiet :
    (¬ group.Asks filtering node ∨ group.rules = []) →
    membership.errors = []

namespace Group

section Gates

variable {filtering : Bool} {node : Node} {group : Group} {find : Rule → Evaluation}

theorem excludes_eq_true_iff :
    group.excludes node.environment? = true ↔ group.ClosedTo node := by
  unfold excludes
  constructor
  · intro excluded
    simp only [Bool.and_eq_true, Bool.not_eq_true', bne_iff_ne] at excluded
    obtain ⟨⟨isNamed, notAssigned⟩, different⟩ := excluded
    obtain ⟨environment, named⟩ := Option.isSome_iff_exists.mp isNamed
    exact ⟨notAssigned, environment, named, fun same =>
      different (named.trans same.symm)⟩
  · rintro ⟨notAssigned, environment, named, elsewhere⟩
    simp [named, notAssigned, Ne.symm elsewhere]

theorem isPinned_eq_true_iff :
    group.isPinned node.certname = true ↔ node.certname ∈ group.pinnedNodes := by
  simp [isPinned]

theorem asks_iff :
    group.Asks filtering node ↔
      group.isPinned node.certname = false ∧
        (filtering && group.excludes node.environment?) = false := by
  rw [Bool.eq_false_iff, Bool.eq_false_iff, Ne, Ne, Bool.and_eq_true,
    isPinned_eq_true_iff, excludes_eq_true_iff, not_and]
  exact ⟨fun asks => ⟨asks.unpinned, asks.notClosed⟩,
    fun ⟨unpinned, isOpen⟩ => ⟨unpinned, isOpen⟩⟩

theorem closedTo_of_not_asks
    (notAsked : ¬ group.Asks filtering node)
    (unpinned : node.certname ∉ group.pinnedNodes) :
    filtering = true ∧ group.ClosedTo node := by
  by_contra isOpen
  exact notAsked ⟨unpinned, not_and.mp isOpen⟩

theorem consulted_of_asks
    (asks : group.Asks filtering node) :
    group.consulted filtering node = group.rules := by
  obtain ⟨unpinned, isOpen⟩ := asks_iff.mp asks
  simp [consulted, unpinned, isOpen]

theorem consulted_of_not_asks
    (notAsked : ¬ group.Asks filtering node) :
    group.consulted filtering node = [] := by
  unfold consulted
  rw [if_pos]
  rw [asks_iff, not_and_or, Bool.not_eq_false, Bool.not_eq_false] at notAsked
  rwa [Bool.or_eq_true]

/-- Combining evaluations finds out whether the rules agree. -/
theorem combine_map_eq_true_iff
    (affirms : ∀ rule, (find rule).matched = true ↔ (find rule).Affirms) :
    combine group.matchType (group.rules.map find) = true ↔ group.Agrees find := by
  unfold combine Agrees
  cases group.matchType with
  | all =>
      simp [affirms]
  | any =>
      simp [affirms]

theorem judge_of_pinned
    (pinned : node.certname ∈ group.pinnedNodes)
    (filtering : Bool)
    (evaluations : List Evaluation) :
    group.judge filtering node evaluations =
      ⟨group.id, some .pinned, evaluations, false⟩ := by
  unfold judge
  rw [if_pos (isPinned_eq_true_iff.mpr pinned)]

theorem judge_of_closed
    (unpinned : node.certname ∉ group.pinnedNodes)
    (closed : group.ClosedTo node)
    (evaluations : List Evaluation) :
    group.judge true node evaluations = ⟨group.id, none, evaluations, true⟩ := by
  unfold judge
  rw [if_neg (mt isPinned_eq_true_iff.mp unpinned), Bool.true_and,
    if_pos (excludes_eq_true_iff.mpr closed)]

theorem judge_of_asks
    (asks : group.Asks filtering node)
    (evaluations : List Evaluation) :
    group.judge filtering node evaluations =
      if group.rules.isEmpty then
        ⟨group.id, if group.matchesAllNodes then some .matchAll else none,
          evaluations, false⟩
      else
        ⟨group.id,
          if combine group.matchType evaluations then some .rules else none,
          evaluations, false⟩ := by
  obtain ⟨unpinned, isOpen⟩ := asks_iff.mp asks
  unfold judge
  rw [unpinned, isOpen]
  rfl

theorem decidedBy_of_pinned
    (pinned : node.certname ∈ group.pinnedNodes) :
    (Membership.mk group.id (some .pinned) [] false).DecidedBy
      find filtering node group where
  ofGroup := rfl
  pinned _ := rfl
  filtered := by simp [pinned]
  shutOut := nofun
  unruled asks := absurd pinned asks.unpinned
  ruled asks := absurd pinned asks.unpinned
  evaluated asks := absurd pinned asks.unpinned
  notEvaluated _ := rfl
  quiet _ := rfl

theorem decidedBy_of_closed
    (unpinned : node.certname ∉ group.pinnedNodes)
    (closed : group.ClosedTo node) :
    (Membership.mk group.id none [] true).DecidedBy find true node group where
  ofGroup := rfl
  pinned pinned := absurd pinned unpinned
  filtered := by simp [unpinned, closed]
  shutOut _ := rfl
  unruled asks := absurd closed (asks.notClosed rfl)
  ruled asks := absurd closed (asks.notClosed rfl)
  evaluated asks := absurd closed (asks.notClosed rfl)
  notEvaluated _ := rfl
  quiet _ := rfl

theorem decidedBy_of_asks
    (affirms : ∀ rule, (find rule).matched = true ↔ (find rule).Affirms)
    (asks : group.Asks filtering node) :
    (group.judge filtering node (group.rules.map find)).DecidedBy
      find filtering node group where
  ofGroup := by
    rw [judge_of_asks asks]
    split <;> rfl
  pinned pinned := absurd pinned asks.unpinned
  filtered := by
    have notFiltered :
        (group.judge filtering node (group.rules.map find)).filtered = false := by
      rw [judge_of_asks asks]
      split <;> rfl
    rw [notFiltered]
    exact ⟨nofun, fun ⟨_, isOn, closed⟩ => absurd closed (asks.notClosed isOn)⟩
  shutOut filtered := by
    rw [judge_of_asks asks] at filtered
    split at filtered <;> cases filtered
  unruled _ noRules reason := by
    rw [judge_of_asks asks, noRules]
    cases group.matchesAllNodes <;> simp [eq_comm]
  ruled _ someRules reason := by
    rw [judge_of_asks asks, if_neg (mt List.isEmpty_iff.mp someRules),
      ← combine_map_eq_true_iff affirms]
    cases combine group.matchType (group.rules.map find) <;> simp [eq_comm]
  evaluated _ := evaluations_judge ..
  notEvaluated notAsked := absurd asks notAsked
  quiet none := by
    have noRules := none.resolve_left (not_not_intro asks)
    unfold Membership.errors
    rw [evaluations_judge, noRules]
    rfl

/-- Judging what the rules that count find decides on the membership. -/
theorem judge_decidedBy
    (affirms : ∀ rule, (find rule).matched = true ↔ (find rule).Affirms)
    (filtering : Bool)
    (node : Node)
    (group : Group) :
    (group.judge filtering node
          ((group.consulted filtering node).map find)).DecidedBy
      find filtering node group := by
  by_cases asks : group.Asks filtering node
  · rw [consulted_of_asks asks]
    exact decidedBy_of_asks affirms asks
  · rw [consulted_of_not_asks asks, List.map_nil]
    by_cases pinned : node.certname ∈ group.pinnedNodes
    · rw [judge_of_pinned pinned]
      exact decidedBy_of_pinned pinned
    · obtain ⟨rfl, closed⟩ := closedTo_of_not_asks asks pinned
      rw [judge_of_closed pinned closed]
      exact decidedBy_of_closed pinned closed

end Gates

/-- Evaluating rules one after the other is a traversal of their list. -/
theorem evaluateAll_eq_mapM
    {m : Type → Type}
    [Monad m]
    [LawfulMonad m]
    (evaluate : Rule → m Evaluation)
    (rules : List Rule) :
    evaluateAll evaluate rules = rules.mapM evaluate := by
  induction rules with
  | nil =>
      rfl
  | cons rule rest inductionHypothesis =>
      rw [evaluateAll, List.mapM_cons, inductionHypothesis]

end Group

namespace Engine

/-- Decide whether a node belongs to a group whose rules look at some facts. -/
def membershipOn
    (facts : Value)
    (filtering : Bool)
    (node : Node)
    (group : Group) :
    Action Membership :=
  group.membership (evaluate facts group.id) filtering node

/-- A classification decides by the facts of the node as the rules see them. -/
theorem membership_eq_membershipOn
    (settings : Settings)
    (node : Node)
    (group : Group) :
    membership settings node group =
      membershipOn (factsFor settings node) settings.filtersEnvironments node
        group :=
  rfl

/--
Deciding on a membership evaluates each rule once, in order, if the rules are asked,
and evaluates none if they are not.
-/
structure AsksEach
    (facts : Value)
    (filtering : Bool)
    (node : Node)
    (group : Group)
    (membership : Membership) :
    Prop where
  each :
    group.Asks filtering node →
    ∃ judge : List Evaluation → Membership,
      membershipOn facts filtering node group =
        judge <$> group.rules.mapM (evaluate facts group.id)
  none :
    (¬ group.Asks filtering node ∨ group.rules = []) →
    membershipOn facts filtering node group = pure membership

end Engine

/-- What the rules of a group find in facts, as long as none of them breaks down. -/
theorem exists_find
    (facts : Value)
    (group : String) :
    ∃ find : Rule → Evaluation,
      (∀ rule, (find rule).matched = true ↔ (find rule).Affirms) ∧
        ∀ rule,
          rule.breakdown? = none →
          Direct.evaluate facts group rule = .ok (find rule) := by
  have each :
      ∀ rule : Rule, ∃ evaluation : Evaluation,
        (evaluation.matched = true ↔ evaluation.Affirms) ∧
          (rule.breakdown? = none →
            Direct.evaluate facts group rule = .ok evaluation) := by
    intro rule
    have stops := Direct.stopsAt_verdict rule (rule.fact? facts)
    cases breaksDown : rule.breakdown? with
    | some fatal =>
        exact ⟨⟨rule.id, false, none, none⟩, by simp [Evaluation.Affirms], nofun⟩
    | none =>
        rw [breaksDown] at stops
        obtain ⟨verdict, given⟩ := stops.exists_eq_ok
        refine ⟨rule.evaluation (some group) (rule.fact? facts) verdict, ?_, ?_⟩
        · cases verdict <;> simp [Rule.evaluation, Evaluation.Affirms]
        · intro _
          unfold Direct.evaluate
          rw [given]
          rfl
  choose find affirms given using each
  exact ⟨find, affirms, given⟩

namespace Direct

/-- Rules that do not break down are all evaluated. -/
theorem evaluateAll_eq_ok
    {facts : Value}
    {group : String}
    {find : Rule → Evaluation}
    {rules : List Rule}
    (given : ∀ rule ∈ rules, evaluate facts group rule = .ok (find rule)) :
    Group.evaluateAll (evaluate facts group) rules = .ok (rules.map find) := by
  rw [Group.evaluateAll_eq_ok_iff, List.forall₂_map_right_iff, List.forall₂_same]
  exact given

end Direct

namespace Engine

theorem yields_membershipOn
    {facts : Value}
    {filtering : Bool}
    {node : Node}
    {group : Group}
    {find : Rule → Evaluation}
    (given :
      ∀ rule ∈ group.consulted filtering node,
        Direct.evaluate facts group.id rule = .ok (find rule)) :
    Yields (membershipOn facts filtering node group)
      (.ok (group.judge filtering node
        ((group.consulted filtering node).map find))) := by
  have evaluated :=
    Yields.evaluateAll (Yields.evaluate facts group.id)
      (group.consulted filtering node)
  rw [Direct.evaluateAll_eq_ok given] at evaluated
  unfold membershipOn
  rw [Group.membership_eq_judge]
  have judged :
      ∀ evaluations,
        Yields (pure (group.judge filtering node evaluations))
          (.ok (group.judge filtering node evaluations)) :=
    fun evaluations => .pure _
  exact evaluated.bind fun evaluations _ => judged evaluations

theorem asksEach_judge
    {facts : Value}
    {filtering : Bool}
    {node : Node}
    {group : Group}
    (find : Rule → Evaluation) :
    AsksEach facts filtering node group
      (group.judge filtering node
        ((group.consulted filtering node).map find)) where
  each asks := by
    refine ⟨group.judge filtering node, ?_⟩
    unfold membershipOn
    rw [Group.membership_eq_judge, Group.consulted_of_asks asks,
      Group.evaluateAll_eq_mapM, map_eq_pure_bind]
  none := by
    intro noneAsked
    have noRules : group.consulted filtering node = [] := by
      rcases noneAsked with notAsked | noRules
      · exact Group.consulted_of_not_asks notAsked
      · exact List.subset_nil.mp (noRules ▸ group.consulted_subset filtering node)
    unfold membershipOn
    rw [Group.membership_eq_judge, noRules]
    rfl

end Engine

namespace Group

section Rearranged

variable {filtering : Bool} {node : Node} {group : Group} {rules : List Rule}

/-- Whether the rules are asked does not depend on what they are. -/
theorem asks_rules_iff :
    ({ group with rules } : Group).Asks filtering node ↔
      group.Asks filtering node := by
  simp only [asks_iff]
  exact Iff.rfl

theorem consulted_perm
    (permuted : rules.Perm group.rules)
    (filtering : Bool)
    (node : Node) :
    (({ group with rules } : Group).consulted filtering node).Perm
      (group.consulted filtering node) := by
  by_cases asks : group.Asks filtering node
  · rw [consulted_of_asks asks, consulted_of_asks (asks_rules_iff.mpr asks)]
    exact permuted
  · rw [consulted_of_not_asks asks,
      consulted_of_not_asks (mt asks_rules_iff.mp asks)]

theorem combine_perm
    {evaluations others : List Evaluation}
    (permuted : evaluations.Perm others)
    (matchType : RuleMatchType) :
    combine matchType evaluations = combine matchType others := by
  cases matchType with
  | all =>
      exact permuted.all_eq
  | any =>
      exact permuted.any_eq

/-- Rearranged rules come to the same verdict. -/
theorem judge_perm
    {evaluations others : List Evaluation}
    (permuted : rules.Perm group.rules)
    (evaluationsPermuted : evaluations.Perm others) :
    ({ group with rules } : Group).judge filtering node evaluations =
      { group.judge filtering node others with evaluations } := by
  have noRules : rules.isEmpty = group.rules.isEmpty := by
    rw [Bool.eq_iff_iff, List.isEmpty_iff_length_eq_zero,
      List.isEmpty_iff_length_eq_zero, permuted.length_eq]
  by_cases asks : group.Asks filtering node
  · rw [judge_of_asks asks, judge_of_asks (asks_rules_iff.mpr asks), noRules,
      combine_perm evaluationsPermuted]
    split <;> rfl
  · by_cases pinned : node.certname ∈ group.pinnedNodes
    · rw [judge_of_pinned pinned, judge_of_pinned (by exact pinned)]
    · obtain ⟨rfl, closed⟩ := closedTo_of_not_asks asks pinned
      rw [judge_of_closed pinned closed, judge_of_closed (by exact pinned)]
      exact ⟨closed.notAssigned, closed.elsewhere⟩

/-- One more evaluation is conjoined to the others, or disjoined if one is enough. -/
theorem combine_append_singleton
    (matchType : RuleMatchType)
    (evaluations : List Evaluation)
    (evaluation : Evaluation) :
    combine matchType (evaluations ++ [evaluation]) =
      match matchType with
      | .all =>
          combine matchType evaluations && evaluation.matched
      | .any =>
          combine matchType evaluations || evaluation.matched := by
  cases matchType <;> simp [combine]

/-- Where rules are asked, a node belongs to the group if their evaluations say so together. -/
theorem holds_judge
    (asks : group.Asks filtering node)
    (someRules : group.rules ≠ [])
    (evaluations : List Evaluation) :
    (group.judge filtering node evaluations).holds =
      combine group.matchType evaluations := by
  rw [judge_of_asks asks, if_neg (mt List.isEmpty_iff.mp someRules)]
  unfold Membership.holds
  cases combine group.matchType evaluations <;> rfl

end Rearranged

end Group

namespace Membership

/-- A further rule decides together with those there are. -/
def JoinedBy
    (membership joined : Membership)
    (matchType : RuleMatchType)
    (evaluation : Evaluation) :
    Prop :=
  joined.evaluations = membership.evaluations ++ [evaluation] ∧
    match matchType with
    | .all =>
        joined.holds = true ↔ membership.holds = true ∧ evaluation.Affirms
    | .any =>
        joined.holds = true ↔ membership.holds = true ∨ evaluation.Affirms

end Membership

/-- Judging one more rule with the others joins its verdict to theirs. -/
theorem Group.judge_joinedBy
    {filtering : Bool}
    {node : Node}
    {group : Group}
    {find : Rule → Evaluation}
    (affirms : ∀ rule, (find rule).matched = true ↔ (find rule).Affirms)
    (asks : group.Asks filtering node)
    (someRules : group.rules ≠ [])
    (rule : Rule) :
    (group.judge filtering node
          ((group.consulted filtering node).map find)).JoinedBy
      (({ group with rules := group.rules ++ [rule] } : Group).judge filtering node
        ((({ group with rules := group.rules ++ [rule] } : Group).consulted filtering
          node).map find))
      group.matchType (find rule) := by
  have joinedAsks :
      ({ group with rules := group.rules ++ [rule] } : Group).Asks filtering node :=
    asks_rules_iff.mpr asks
  have moreRules : group.rules ++ [rule] ≠ [] := by
    simp
  rw [consulted_of_asks asks, consulted_of_asks joinedAsks]
  constructor
  · rw [evaluations_judge, evaluations_judge, List.map_append, List.map_singleton]
  · rw [holds_judge asks someRules, holds_judge joinedAsks moreRules, List.map_append,
      List.map_singleton, combine_append_singleton, ← affirms]
    cases group.matchType with
    | all =>
        exact Bool.and_eq_true_iff
    | any =>
        exact Bool.or_eq_true_iff

/--
Where no rule that counts breaks down, the membership of a node in a group is decided
by what each rule finds, and every rule that is asked is evaluated once, in order.
Rearranged rules come to the same, with their evaluations and problems rearranged, and
one more rule adds its own verdict.
-/
theorem Engine.membershipOn_decided
    (facts : Value)
    {filtering : Bool}
    {node : Node}
    {group : Group}
    (settle :
      ∀ rule ∈ group.consulted filtering node, rule.breakdown? = none) :
    ∃ find membership,
      (∀ rule,
        rule.breakdown? = none →
        Yields (evaluate facts group.id rule) (.ok (find rule))) ∧
      Yields (membershipOn facts filtering node group) (.ok membership) ∧
      membership.DecidedBy find filtering node group ∧
      AsksEach facts filtering node group membership ∧
      (∀ rules,
        rules.Perm group.rules →
        ∃ other : Membership,
          Yields (membershipOn facts filtering node { group with rules })
              (.ok other) ∧
            other.DecidedBy find filtering node { group with rules } ∧
            other.reason? = membership.reason? ∧
            other.filtered = membership.filtered ∧
            other.evaluations.Perm membership.evaluations ∧
            other.errors.Perm membership.errors) ∧
      (group.Asks filtering node →
        group.rules ≠ [] →
        ∀ rule,
          rule.breakdown? = none →
          ∃ other : Membership,
            Yields
                (membershipOn facts filtering node
                  { group with rules := group.rules ++ [rule] })
                (.ok other) ∧
              membership.JoinedBy other group.matchType (find rule)) := by
  obtain ⟨find, affirms, given⟩ := exists_find facts group.id
  refine ⟨find, _, ?finds, ?yields, group.judge_decidedBy affirms filtering node,
    asksEach_judge find, ?rearranged, ?joined⟩
  case finds =>
    intro rule settles
    rw [← given rule settles]
    exact .evaluate facts group.id rule
  case yields =>
    exact yields_membershipOn fun rule counts => given rule (settle rule counts)
  case rearranged =>
    intro rules permuted
    have consulted := Group.consulted_perm permuted filtering node
    have evaluations := consulted.map find
    refine ⟨_, yields_membershipOn fun rule counts =>
        given rule (settle rule (consulted.subset counts)),
      Group.judge_decidedBy affirms filtering node _, ?_⟩
    rw [Group.judge_perm permuted evaluations]
    refine ⟨rfl, rfl, ?_⟩
    unfold Membership.errors
    rw [Group.evaluations_judge]
    exact ⟨evaluations, evaluations.filterMap _⟩
  case joined =>
    intro asks someRules rule settles
    have each :
        ∀ other ∈ group.rules ++ [rule],
          Direct.evaluate facts group.id other = .ok (find other) := by
      rw [List.forall_mem_append, List.forall_mem_singleton]
      refine ⟨fun other isOld => given other (settle other ?_), given rule settles⟩
      rwa [Group.consulted_of_asks asks]
    exact ⟨_, yields_membershipOn fun other counts =>
        each other (Group.consulted_subset filtering node _ counts),
      Group.judge_joinedBy affirms asks someRules rule⟩

/-- A node that no group of the sample pins, and whose role the first rule of one matches. -/
def Sample.visitor : Node :=
  ⟨"node2", [("role", .text "webserver")], some "staging"⟩

/--
The first rule of the sample decides alone, but the second one is evaluated too and
reports its problem.
-/
theorem Engine.membershipOn_decided_sample :
    (∀ rule ∈ Sample.web.consulted true Sample.visitor, rule.breakdown? = none) ∧
      ∃ membership,
        Yields
            (membershipOn (.ofFields Sample.visitor.facts) true Sample.visitor
              Sample.web)
            (.ok membership) ∧
          membership.holds = true ∧
          membership.matchedRules = ["r1"] ∧
          membership.errors.map (·.rule) = ["r2"] := by
  have settle :
      ∀ rule ∈ Sample.web.consulted true Sample.visitor,
        rule.breakdown? = none := by
    have roleIsFine :
        (Rule.mk "r1" Sample.rolePath (.pattern false "^web")).breakdown? = none := by
      cbv
    have unbalanced :
        (Rule.mk "r2" Sample.rolePath (.pattern false "(")).breakdown? = none := by
      cbv
    exact List.forall_mem_cons.mpr
      ⟨roleIsFine, List.forall_mem_singleton.mpr unbalanced⟩
  obtain ⟨_, membership, _, yields, _⟩ :=
    Engine.membershipOn_decided (.ofFields Sample.visitor.facts) settle
  have given := (yields _ (sound_fresh {} .zero)).1
  have evaluated :
      (((fresh {} .zero).run
            (membershipOn (.ofFields Sample.visitor.facts) true Sample.visitor
              Sample.web)).1.toOption.map fun found =>
          (found.holds, found.matchedRules, found.errors.map (·.rule))) =
        some (true, ["r1"], ["r2"]) := by
    cbv
  rw [given] at evaluated
  obtain ⟨holds, matched, errors⟩ := by
    simpa only [Except.toOption, Option.map_some, Option.some.injEq, Prod.mk.injEq]
      using evaluated
  exact ⟨settle, membership, yields, holds, matched, errors⟩

end FleetConfig
