import FleetConfig.Proofs.Service.Direct
import FleetConfig.Service.Pool

/-!
# Work in steps

A work carries out an action of the engine in steps.  Without a break its steps do
what the action does.  With breaks it comes to the direct outcome all the same,
whatever happens to the engine in between, as long as the patterns stay sound.
-/

namespace FleetConfig

namespace PatternCache

/-- Looking a pattern up keeps the cache sound, and what is found is what compiling gives. -/
theorem Sound.lookUp
    {cache : PatternCache}
    (sound : cache.Sound)
    (source : String) :
    (∀ compiled,
        (cache.lookUp source).1 = some compiled →
          Pattern.compile source = .ok compiled) ∧
      (cache.lookUp source).2.Sound := by
  unfold PatternCache.lookUp
  cases found : cache.recent.find? source with
  | some compiled =>
      have compiles := RecencyCache.Every.find? sound found
      refine ⟨fun other same => ?_, RecencyCache.Every.store sound compiles⟩
      cases same
      exact compiles
  | none =>
      refine ⟨fun _ impossible => ?_, sound⟩
      contradiction

theorem Sound.keep
    {cache : PatternCache}
    (sound : cache.Sound)
    {source : String}
    {compiled : Compiled}
    (compiles : Pattern.compile source = .ok compiled) :
    (cache.keep source compiled).Sound :=
  RecencyCache.Every.store sound compiles

end PatternCache

namespace Work

section Monad

variable {α β γ : Type}

/-- A work that comes after another one runs where that one ended, if it succeeded. -/
theorem run_bind
    (work : Work α)
    (continuation : α → Work β)
    (engine : Engine) :
    (work >>= continuation).run engine =
      match work.run engine with
      | (.ok value, after) =>
          (continuation value).run after
      | (.error failure, after) =>
          (.error failure, after) := by
  induction work generalizing engine with
  | finished outcome =>
      cases outcome <;> rfl
  | step change next inductionHypothesis =>
      exact inductionHypothesis engine (change engine)

theorem bind_pure
    (work : Work α) :
    work >>= pure = work := by
  induction work with
  | finished outcome =>
      cases outcome <;> rfl
  | step change next inductionHypothesis =>
      exact congrArg (Work.step change) (funext inductionHypothesis)

theorem bind_assoc
    (work : Work α)
    (first : α → Work β)
    (second : β → Work γ) :
    work >>= first >>= second =
      work >>= fun value => first value >>= second := by
  induction work with
  | finished outcome =>
      cases outcome <;> rfl
  | step change next inductionHypothesis =>
      exact congrArg (Work.step change) (funext inductionHypothesis)

instance : LawfulMonad Work :=
  LawfulMonad.mk' Work bind_pure (fun _ _ => rfl) bind_assoc

end Monad

/--
A work comes to an outcome whatever sound patterns the engine holds at each step.
Every step keeps the patterns sound and leaves the hierarchies alone.
-/
inductive Yields : Work α → Except Failure α → Prop where
  | finished (outcome : Except Failure α) :
      Yields (.finished outcome) outcome
  | step
      {change : Engine → Engine}
      {next : Engine → Work α}
      {outcome : Except Failure α}
      (keeps :
        ∀ engine : Engine,
          engine.patterns.Sound →
          (change engine).patterns.Sound ∧
            (change engine).hierarchies = engine.hierarchies)
      (goesOn :
        ∀ engine : Engine,
          engine.patterns.Sound →
          Yields (next engine) outcome) :
      Yields (.step change next) outcome

/-- One work after another yields what the second yields on the value of the first. -/
theorem Yields.bind
    {work : Work α}
    {outcome : Except Failure α}
    (first : work.Yields outcome)
    {continuation : α → Work β}
    {rest : α → Except Failure β}
    (second :
      ∀ value, outcome = .ok value → (continuation value).Yields (rest value)) :
    (work >>= continuation).Yields (outcome >>= rest) := by
  induction first with
  | finished outcome =>
      cases outcome with
      | ok value =>
          exact second value rfl
      | error failure =>
          exact .finished (.error failure)
  | step keeps goesOn inductionHypothesis =>
      exact .step keeps fun engine sound =>
        inductionHypothesis engine sound second

/-- A work does what an action does, and has its direct outcome whatever comes in between. -/
structure CarriesOut
    (work : Work α)
    (action : Action α)
    (outcome : Except Failure α) :
    Prop where
  runs : ∀ engine, work.run engine = engine.run action
  yields : work.Yields outcome

namespace CarriesOut

variable {α β : Type}
  {work : Work α}
  {action : Action α}
  {outcome : Except Failure α}

theorem pure
    (value : α) :
    CarriesOut (Pure.pure value) (Pure.pure value) (.ok value) :=
  ⟨fun _ => rfl, .finished _⟩

theorem bind
    (first : work.CarriesOut action outcome)
    {continuation : α → Work β}
    {next : α → Action β}
    {rest : α → Except Failure β}
    (second :
      ∀ value, (continuation value).CarriesOut (next value) (rest value)) :
    CarriesOut (work >>= continuation) (action >>= next) (outcome >>= rest) := by
  constructor
  case runs =>
    intro engine
    rw [run_bind, Engine.run_bind, first.runs]
    cases ran : engine.run action with
    | mk found after =>
        cases found with
        | ok value =>
            exact (second value).runs after
        | error failure =>
            rfl
  case yields =>
    exact first.yields.bind fun value _ => (second value).yields

/-- A work that yields nothing of interest can go first. -/
theorem after
    {preparation : Work Unit}
    {preparationAction : Action Unit}
    (first : preparation.CarriesOut preparationAction (.ok ()))
    (second : work.CarriesOut action outcome) :
    CarriesOut (preparation >>= fun _ => work)
      (preparationAction >>= fun _ => action) outcome :=
  first.bind fun _ => second

theorem record
    (event : Event) :
    CarriesOut (Work.record event) (Engine.record event) (.ok ()) :=
  ⟨fun _ => rfl,
    .step (fun _ sound => ⟨sound, rfl⟩) fun _ _ => .finished _⟩

/-- Recording events step by step is recording them all. -/
theorem recordAll
    (events : List Event) :
    CarriesOut (Work.recordAll events) (Engine.recordAll events) (.ok ()) := by
  induction events with
  | nil =>
      exact pure ()
  | cons event rest inductionHypothesis =>
      exact (record event).after inductionHypothesis

theorem settle
    (failure : ε → Failure)
    (result : Except ε α) :
    CarriesOut (Work.settle failure result) (Engine.settle failure result)
      (result.mapError failure) := by
  refine ⟨fun _ => ?_, .finished _⟩
  cases result <;> rfl

/-- A pattern may be kept by others between looking it up and keeping it. -/
theorem yields_compile
    (source : String) :
    (Work.compile source).Yields (Direct.compile source) := by
  refine .step ?_ ?_
  · intro engine sound
    exact ⟨(sound.lookUp source).2, rfl⟩
  · intro engine sound
    change
      Yields
        (Work.bind (.finished (.ok (engine.patterns.lookUp source).1)) _) _
    unfold Direct.compile
    cases found : (engine.patterns.lookUp source).1 with
    | some compiled =>
        rw [(sound.lookUp source).1 compiled found]
        exact ((record _).after (pure compiled)).yields
    | none =>
        refine ((record _).yields.bind fun _ _ => ?_ :
          Yields (_ >>= _) (Except.ok () >>= fun _ => _))
        cases compiles : Pattern.compile source with
        | ok compiled =>
            refine .step ?_ fun _ _ => .finished _
            intro engine sound
            exact ⟨sound.keep compiles, rfl⟩
        | error fatal =>
            exact .finished _

theorem runs_compile
    (source : String)
    (engine : Engine) :
    (Work.compile source).run engine = engine.run (Engine.compile source) := by
  let event : Event :=
    if engine.patterns.has source then .patternFound else .patternMissed
  let changed : Engine :=
    { engine with
      meters := engine.meters.record event,
      patterns := (engine.patterns.request source).2 }
  have ran :
      engine.run (Engine.compile source) =
        changed.run
          (Engine.settle .pattern (engine.patterns.request source).1) :=
    rfl
  have looked :
      (Work.lookUp source).run engine =
        (.ok (engine.patterns.lookUp source).1,
          { engine with patterns := (engine.patterns.lookUp source).2 }) :=
    rfl
  unfold Work.compile
  rw [ran, run_bind, looked]
  unfold changed event PatternCache.has PatternCache.request
    PatternCache.lookUp
  cases found : engine.patterns.recent.find? source with
  | some compiled =>
      rfl
  | none =>
      cases Pattern.compile source <;> rfl

theorem compile
    (source : String) :
    CarriesOut (Work.compile source) (Engine.compile source)
      (Direct.compile source) :=
  ⟨runs_compile source, yields_compile source⟩

theorem verdict
    (rule : Rule)
    (fact? : Option Value) :
    CarriesOut (rule.verdict Work.compile fact?)
      (rule.verdict Engine.compile fact?)
      (rule.verdict Direct.compile fact?) := by
  unfold Rule.verdict
  cases rule.condition with
  | pattern negated source =>
      exact (compile source).bind fun compiled => pure _
  | equality negated expected =>
      exact pure _
  | ordering order bound =>
      exact pure _
  | membership negated items =>
      exact pure _
  | presence negated =>
      exact pure _

theorem evaluate
    (facts : Value)
    (group : String)
    (rule : Rule) :
    CarriesOut (Work.evaluate facts group rule)
      (Engine.evaluate facts group rule)
      (Direct.evaluate facts group rule) := by
  refine (verdict rule (rule.fact? facts)).bind ?_
  intro verdict
  cases verdict with
  | ok matched =>
      exact after (pure ()) (pure _)
  | error problem =>
      exact after (record _) (pure _)

theorem evaluateAll
    {evaluate : Rule → Work Evaluation}
    {action : Rule → Action Evaluation}
    {direct : Rule → Except Failure Evaluation}
    (carriesOut : ∀ rule, CarriesOut (evaluate rule) (action rule) (direct rule))
    (rules : List Rule) :
    CarriesOut (Group.evaluateAll evaluate rules)
      (Group.evaluateAll action rules) (Group.evaluateAll direct rules) := by
  induction rules with
  | nil =>
      exact pure []
  | cons rule rest inductionHypothesis =>
      exact (carriesOut rule).bind fun evaluation =>
        inductionHypothesis.bind fun others => pure _

theorem membership
    (settings : Settings)
    (node : Node)
    (group : Group) :
    CarriesOut (Work.membership settings node group)
      (Engine.membership settings node group)
      (Direct.membership settings node group) := by
  unfold Work.membership Engine.membership Direct.membership
  rw [Group.membership_eq_judge, Group.membership_eq_judge,
    Group.membership_eq_judge]
  have evaluations :=
    evaluateAll (evaluate (Engine.factsFor settings node) group.id)
      (group.consulted settings.filtersEnvironments node)
  exact evaluations.bind fun evaluations => pure _

theorem examine
    (settings : Settings)
    (node : Node)
    (groupSet : GroupSet)
    (hierarchy : Hierarchy)
    (order : List String) :
    CarriesOut (Work.examine settings node groupSet hierarchy order)
      (Engine.examine settings node groupSet hierarchy order)
      (Direct.examine settings node hierarchy
        (order.filterMap groupSet.find?)) := by
  induction order with
  | nil =>
      exact pure []
  | cons id rest inductionHypothesis =>
      unfold Work.examine Engine.examine
      cases found : groupSet.find? id with
      | none =>
          rw [List.filterMap_cons_none found]
          exact inductionHypothesis
      | some group =>
          have same := List.find?_some found
          have sameId : group.id = id := eq_of_beq same
          rw [List.filterMap_cons_some found]
          refine (membership settings node group).bind ?_
          intro membership
          refine (recordAll _).after (inductionHypothesis.bind ?_)
          intro others
          rw [sameId]
          exact pure _

/-- Classifying in steps is classifying; nothing that others do in between shows. -/
theorem resolve
    (settings : Settings)
    (node : Node)
    (groupSet : GroupSet)
    (hierarchy : Hierarchy) :
    CarriesOut (Work.resolve settings node groupSet hierarchy)
      (Engine.resolve settings node groupSet hierarchy)
      (Direct.resolve settings node groupSet hierarchy) := by
  refine (examine settings node groupSet hierarchy hierarchy.order).bind ?_
  intro examined
  refine (recordAll _).after ((settle .merge _).bind ?_)
  intro merged
  exact (record _).after (pure _)

end CarriesOut

end Work

end FleetConfig
