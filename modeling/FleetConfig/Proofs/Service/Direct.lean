import FleetConfig.Proofs.Group.Membership
import FleetConfig.Proofs.Pattern.Cache
import FleetConfig.Service.Engine

/-!
# Classification without caches

Without caches and meters a classification is a function of the settings, the
node and the group set.  The engine computes this function: whatever sound
patterns its cache holds, its actions give what the direct computation gives.
-/

namespace FleetConfig

namespace Direct

/-- Compile a pattern. -/
def compile (source : String) : Except Failure Compiled :=
  (Pattern.compile source).mapError .pattern

/-- Evaluate a rule of a group on facts. -/
def evaluate
    (facts : Value)
    (group : String)
    (rule : Rule) :
    Except Failure Evaluation := do
  let verdict ← rule.verdict compile (rule.fact? facts)
  return rule.evaluation (some group) (rule.fact? facts) verdict

/-- Decide whether a node belongs to a group. -/
def membership
    (settings : Settings)
    (node : Node)
    (group : Group) :
    Except Failure Membership :=
  group.membership (evaluate (Engine.factsFor settings node) group.id)
    settings.filtersEnvironments node

/-- Examine groups one after the other. -/
def examine
    (settings : Settings)
    (node : Node)
    (hierarchy : Hierarchy) :
    List Group → Except Failure (List Engine.Examined)
  | [] =>
      pure []
  | group :: rest => do
      let membership ← membership settings node group
      let others ← examine settings node hierarchy rest
      return (group, (hierarchy.depth? group.id).getD 0, membership) :: others

/-- The configuration that examined groups and what they set together make up. -/
def configuration
    (node : Node)
    (version : String)
    (examined : List Engine.Examined)
    (merged : Merged) :
    ResolvedConfiguration :=
  ResolvedConfiguration.sealed
    { certname := node.certname,
      environment? := merged.environment?,
      groups := examined.filterMap Engine.match?,
      classes := merged.classes,
      parameters := merged.parameters,
      globals := merged.globals,
      conflicts := merged.conflicts,
      errors := examined.flatMap fun (_, _, membership) => membership.errors,
      version,
      provenance := "" }

/-- The groups that the node belongs to, out of the examined ones. -/
def matched (examined : List Engine.Examined) : List Group :=
  (examined.filter fun (_, _, membership) => membership.holds).map
    fun (group, _) => group

/-- Classify a node under a validated hierarchy. -/
def resolve
    (settings : Settings)
    (node : Node)
    (groupSet : GroupSet)
    (hierarchy : Hierarchy) :
    Except Failure ResolvedConfiguration := do
  let examined ←
    examine settings node hierarchy (hierarchy.order.filterMap groupSet.find?)
  let merged ←
    (mergeGroups (matched examined) hierarchy node.environment?).mapError .merge
  return configuration node groupSet.version examined merged

/-- Classify a node. -/
def classify
    (settings : Settings)
    (node : Node)
    (groupSet : GroupSet) :
    Except Failure ResolvedConfiguration := do
  let hierarchy ←
    (groupSet.validate (Engine.limits settings)).mapError .rejected
  resolve settings node groupSet hierarchy

/-- The nodes that belong to a group, in the order given. -/
def membersAmong
    (settings : Settings)
    (group : Group) :
    List Node → Except Failure (List String)
  | [] =>
      pure []
  | node :: rest => do
      let membership ← membership settings node group
      let others ← membersAmong settings group rest
      return if membership.holds then node.certname :: others else others

/-- The certnames of the nodes that belong to a group, in ascending order. -/
def nodesInGroup
    (settings : Settings)
    (id : String)
    (nodes : List Node)
    (groupSet : GroupSet) :
    Except Failure (List String) :=
  match groupSet.find? id with
  | none =>
      throw (.groupNotFound id)
  | some group =>
      Text.distinctAscending <$> membersAmong settings group nodes

end Direct

namespace Engine

/--
An action has an outcome whatever sound patterns the engine holds; it keeps the
patterns sound and leaves the hierarchies alone.
-/
def Yields
    (action : Action α)
    (outcome : Except Failure α) :
    Prop :=
  ∀ engine : Engine,
    engine.patterns.Sound →
    (engine.run action).1 = outcome ∧
      (engine.run action).2.patterns.Sound ∧
      (engine.run action).2.hierarchies = engine.hierarchies

theorem sound_fresh
    (settings : Settings)
    (meters : Meters) :
    (fresh settings meters).patterns.Sound :=
  PatternCache.sound_ofSize settings.patternCacheSize

/--
Running one action after another runs the second where the first ended, if it
succeeded.
-/
theorem run_bind
    (engine : Engine)
    (action : Action α)
    (next : α → Action β) :
    engine.run (action >>= next) =
      match engine.run action with
      | (.ok value, after) =>
          after.run (next value)
      | (.error failure, after) =>
          (.error failure, after) := by
  unfold run
  rw [ExceptT.run_bind, StateT.run_bind]
  cases ran : StateT.run action.run engine with
  | mk outcome after =>
      cases outcome <;> rfl

namespace Yields

variable {α β : Type} {action : Action α} {outcome : Except Failure α}

theorem pure
    (value : α) :
    Yields (Pure.pure value) (.ok value) := by
  intro engine sound
  exact ⟨rfl, sound, rfl⟩

theorem throw
    (failure : Failure) :
    Yields (MonadExcept.throw failure : Action α) (.error failure) := by
  intro engine sound
  exact ⟨rfl, sound, rfl⟩

/-- One action after another yields what the second yields on the value of the first. -/
theorem bind
    (first : Yields action outcome)
    {next : α → Action β}
    {rest : α → Except Failure β}
    (second : ∀ value, outcome = .ok value → Yields (next value) (rest value)) :
    Yields (action >>= next) (outcome >>= rest) := by
  intro engine sound
  obtain ⟨given, stillSound, untouched⟩ := first engine sound
  rw [run_bind]
  cases ran : engine.run action with
  | mk found after =>
      rw [ran] at given stillSound untouched
      dsimp only at given stillSound untouched
      subst given
      cases found with
      | error failure =>
          exact ⟨rfl, stillSound, untouched⟩
      | ok value =>
          obtain ⟨last, lastSound, lastUntouched⟩ :=
            second value rfl after stillSound
          exact ⟨last, lastSound, lastUntouched.trans untouched⟩

/-- An action that yields nothing of interest can go first. -/
theorem after
    {preparation : Action Unit}
    (first : Yields preparation (.ok ()))
    (second : Yields action outcome) :
    Yields (preparation >>= fun _ => action) outcome := by
  have composed :
      Yields (preparation >>= fun _ => action)
        (Except.ok () >>= fun _ => outcome) :=
    bind first fun _ _ => second
  exact composed

theorem record
    (event : Event) :
    Yields (Engine.record event) (.ok ()) := by
  intro engine sound
  exact ⟨rfl, sound, rfl⟩

theorem recordAll
    (events : List Event) :
    Yields (Engine.recordAll events) (.ok ()) := by
  intro engine sound
  exact ⟨rfl, sound, rfl⟩

theorem settle
    (failure : ε → Failure)
    (result : Except ε α) :
    Yields (Engine.settle failure result) (result.mapError failure) := by
  cases result with
  | ok value =>
      exact pure value
  | error error =>
      exact throw (failure error)

/-- Compiling through the cache yields what compiling anew gives. -/
theorem compile
    (source : String) :
    Yields (Engine.compile source) (Direct.compile source) := by
  intro engine sound
  obtain ⟨given, stillSound⟩ := sound.request source
  let event : Event :=
    if engine.patterns.has source then .patternFound else .patternMissed
  let changed : Engine :=
    { engine with
      meters := engine.meters.record event,
      patterns := (engine.patterns.request source).2 }
  -- By now the engine has changed; all that is left is to settle what the cache gave.
  have ran :
      engine.run (Engine.compile source) =
        changed.run
          (Engine.settle .pattern (engine.patterns.request source).1) :=
    rfl
  rw [ran, given]
  exact settle .pattern (Pattern.compile source) changed stillSound

theorem verdict
    (rule : Rule)
    (fact? : Option Value) :
    Yields (rule.verdict Engine.compile fact?)
      (rule.verdict Direct.compile fact?) := by
  unfold Rule.verdict
  cases rule.condition with
  | pattern negated source =>
      exact (compile source).bind fun compiled _ => pure _
  | equality negated expected =>
      exact pure _
  | ordering order bound =>
      exact pure _
  | membership negated items =>
      exact pure _
  | presence negated =>
      exact pure _

/-- Evaluating a rule through the cache yields the direct evaluation. -/
theorem evaluate
    (facts : Value)
    (group : String)
    (rule : Rule) :
    Yields (Engine.evaluate facts group rule)
      (Direct.evaluate facts group rule) := by
  refine (verdict rule (rule.fact? facts)).bind ?_
  intro verdict _
  cases verdict with
  | ok matched =>
      exact after (pure ()) (pure _)
  | error problem =>
      exact after (record _) (pure _)

theorem evaluateAll
    {evaluate : Rule → Action Evaluation}
    {direct : Rule → Except Failure Evaluation}
    (yields : ∀ rule, Yields (evaluate rule) (direct rule))
    (rules : List Rule) :
    Yields (Group.evaluateAll evaluate rules)
      (Group.evaluateAll direct rules) := by
  induction rules with
  | nil =>
      exact pure []
  | cons rule rest inductionHypothesis =>
      exact (yields rule).bind fun evaluation _ =>
        inductionHypothesis.bind fun others _ => pure _

theorem membership
    (settings : Settings)
    (node : Node)
    (group : Group) :
    Yields (Engine.membership settings node group)
      (Direct.membership settings node group) := by
  unfold Engine.membership Direct.membership
  rw [Group.membership_eq_judge, Group.membership_eq_judge]
  have evaluations :=
    evaluateAll (evaluate (factsFor settings node) group.id)
      (group.consulted settings.filtersEnvironments node)
  exact evaluations.bind fun evaluations _ => pure _

/--
Examining groups through the cache yields the direct examination of those that
are found.
-/
theorem examine
    (settings : Settings)
    (node : Node)
    (groupSet : GroupSet)
    (hierarchy : Hierarchy)
    (order : List String) :
    Yields (Engine.examine settings node groupSet hierarchy order)
      (Direct.examine settings node hierarchy
        (order.filterMap groupSet.find?)) := by
  induction order with
  | nil =>
      exact pure []
  | cons id rest inductionHypothesis =>
      unfold Engine.examine
      cases found : groupSet.find? id with
      | none =>
          rw [List.filterMap_cons_none found]
          exact inductionHypothesis
      | some group =>
          -- The depth is looked up under the identifier in the order, not under
          -- the group's own.
          have same := List.find?_some found
          have sameId : group.id = id := eq_of_beq same
          rw [List.filterMap_cons_some found]
          refine (membership settings node group).bind ?_
          intro membership _
          refine after (recordAll _) (inductionHypothesis.bind ?_)
          intro others _
          rw [sameId]
          exact pure _

theorem resolve
    (settings : Settings)
    (node : Node)
    (groupSet : GroupSet)
    (hierarchy : Hierarchy) :
    Yields (Engine.resolve settings node groupSet hierarchy)
      (Direct.resolve settings node groupSet hierarchy) := by
  refine (examine settings node groupSet hierarchy hierarchy.order).bind ?_
  intro examined _
  refine after (recordAll _) ((settle .merge _).bind ?_)
  intro merged _
  exact after (record _) (pure _)

/-- Classifying nodes through the cache yields the direct classification of each. -/
theorem resolveAll
    (settings : Settings)
    (groupSet : GroupSet)
    (hierarchy : Hierarchy)
    (nodes : List Node) :
    Yields (Engine.resolveAll settings groupSet hierarchy nodes)
      (nodes.mapM fun node =>
        Direct.resolve settings node groupSet hierarchy) := by
  induction nodes with
  | nil =>
      exact pure []
  | cons node rest inductionHypothesis =>
      rw [List.mapM_cons]
      exact (resolve settings node groupSet hierarchy).bind fun resolved _ =>
        inductionHypothesis.bind fun others _ => pure _

theorem membersAmong
    (settings : Settings)
    (group : Group)
    (nodes : List Node) :
    Yields (Engine.membersAmong settings group nodes)
      (Direct.membersAmong settings group nodes) := by
  induction nodes with
  | nil =>
      exact pure []
  | cons node rest inductionHypothesis =>
      exact (membership settings node group).bind fun membership _ =>
        inductionHypothesis.bind fun others _ => pure _

end Yields

end Engine

end FleetConfig
