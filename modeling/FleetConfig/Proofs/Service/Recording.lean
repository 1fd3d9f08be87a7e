import FleetConfig.Proofs.Classification.PlacedGroups
import FleetConfig.Proofs.Service.Consultation
import FleetConfig.Proofs.Service.Pool

/-!
# What a classification records

A result shows events: one for each group match and conflict in it, and that it was
given.  While a work classifies a node, it records exactly the events that its
result will show, and never one that is shown by no result.  So whenever results
are collected, also from works that take turns, the meters have gained what the
results show.
-/

namespace FleetConfig

/-- Whether an event shows in the result of a classification. -/
def Event.showsInResult : Event → Bool
  | .classified successful =>
      successful
  | .groupMatched _ =>
      true
  | .valuesConflicted _ =>
      true
  | _ =>
      false

/-- The events that a result shows. -/
def ResolvedConfiguration.events (resolved : ResolvedConfiguration) : List Event :=
  resolved.groups.map (fun found => .groupMatched found.reason) ++
    resolved.conflicts.map (fun conflict => .valuesConflicted conflict.scope) ++
    [.classified true]

namespace Meters

/-- How often an event happened. -/
def number
    (meters : Meters)
    (event : Event) :
    Nat :=
  (meters.counts.lookup event).getD 0

theorem number_record
    (meters : Meters)
    (recorded event : Event) :
    (meters.record recorded).number event =
      meters.number event + [recorded].count event := by
  unfold number record
  dsimp only
  induction meters.counts with
  | nil =>
      rw [count, List.lookup_cons, List.lookup_nil, List.count_singleton,
        BEq.comm]
      cases recorded == event <;> rfl
  | cons entry rest inductionHypothesis =>
      obtain ⟨other, number⟩ := entry
      unfold count
      by_cases same : other = recorded
      · subst same
        rw [if_pos rfl, List.lookup_cons, List.lookup_cons,
          List.count_singleton, BEq.comm]
        cases other == event <;> rfl
      · -- Another event is counted here, so this entry is as it was.
        rw [if_neg same, List.lookup_cons, List.lookup_cons]
        cases isOther : event == other with
        | true =>
            rw [List.count_singleton, eq_of_beq isOther]
            simp [Ne.symm same]
        | false =>
            exact inductionHypothesis

/-- Of the events that show in results, the meters gained the given ones. -/
def Gains
    (before after : Meters)
    (events : List Event) :
    Prop :=
  ∀ event,
    event.showsInResult = true →
    after.number event = before.number event + events.count event

namespace Gains

variable {before between after : Meters} {earlier later events : List Event}

theorem refl
    (meters : Meters) :
    meters.Gains meters [] :=
  fun _ _ => rfl

theorem trans
    (first : before.Gains between earlier)
    (second : between.Gains after later) :
    before.Gains after (earlier ++ later) := by
  intro event shows
  rw [second event shows, first event shows, List.count_append, Nat.add_assoc]

/-- In which order events happened does not show. -/
theorem perm
    (gains : before.Gains after events)
    {others : List Event}
    (permuted : events.Perm others) :
    before.Gains after others := by
  intro event shows
  rw [gains event shows, permuted.count_eq]

theorem record
    (meters : Meters)
    (event : Event) :
    meters.Gains (meters.record event) [event] :=
  fun other _ => meters.number_record event other

/-- Nothing is gained by an event that no result shows. -/
theorem record_hidden
    (meters : Meters)
    {event : Event}
    (hidden : event.showsInResult = false) :
    meters.Gains (meters.record event) [] := by
  intro other shows
  have different : event ≠ other := by
    rintro rfl
    rw [hidden] at shows
    contradiction
  rw [number_record, List.count_singleton, beq_false_of_ne different]
  rfl

theorem recordAll_hidden
    (meters : Meters)
    {events : List Event}
    (hidden : ∀ event ∈ events, event.showsInResult = false) :
    meters.Gains (meters.recordAll events) [] := by
  induction events generalizing meters with
  | nil =>
      exact refl meters
  | cons event rest inductionHypothesis =>
      obtain ⟨first, others⟩ := List.forall_mem_cons.mp hidden
      exact (record_hidden meters first).trans
        (inductionHypothesis (meters.record event) others)

end Gains

end Meters

namespace Work

/--
A work has recorded some events.  If it comes to a value, it will have recorded
those that belong to the value, whatever happens to the engine in between.
-/
inductive Records (events : α → List Event) : Work α → List Event → Prop where
  | finished
      {outcome : Except Failure α}
      {recorded : List Event}
      (all : ∀ value, outcome = .ok value → events value = recorded) :
      Records events (.finished outcome) recorded
  | step
      {change : Engine → Engine}
      {next : Engine → Work α}
      {recorded now : List Event}
      (gains :
        ∀ engine : Engine, engine.meters.Gains (change engine).meters now)
      (goesOn : ∀ engine, Records events (next engine) (recorded ++ now)) :
      Records events (.step change next) recorded

/-- A work records no event that shows in results. -/
def Silent (work : Work α) : Prop :=
  ∀ recorded, Records (fun _ => recorded) work recorded

namespace Records

variable {α β : Type}
  {events : α → List Event}
  {later : β → List Event}
  {work : Work α}
  {recorded : List Event}

theorem pure
    (value : α) :
    Records events (Pure.pure value) (events value) :=
  .finished fun _ same => by
    cases same
    rfl

/-- What comes after a work goes on from what belongs to the value of that work. -/
theorem bind
    (first : Records events work recorded)
    {continuation : α → Work β}
    (second : ∀ value, Records later (continuation value) (events value)) :
    Records later (work >>= continuation) recorded := by
  induction first with
  | @finished outcome recorded all =>
      cases outcome with
      | ok value =>
          rw [← all value rfl]
          exact second value
      | error failure =>
          exact .finished nofun
  | step gains _ inductionHypothesis =>
      exact .step gains inductionHypothesis

/-- A work that records nothing can go first. -/
theorem after
    (first : work.Silent)
    {continuation : α → Work β}
    (second : ∀ value, Records later (continuation value) recorded) :
    Records later (work >>= continuation) recorded :=
  (first recorded).bind second

theorem record
    (event : Event)
    (recorded : List Event) :
    Records (fun _ => recorded ++ [event]) (Work.record event) recorded :=
  .step (fun engine => .record engine.meters event) fun _ => .pure ()

theorem recordAll
    (happened recorded : List Event) :
    Records (fun _ => recorded ++ happened) (Work.recordAll happened)
      recorded := by
  induction happened generalizing recorded with
  | nil =>
      rw [List.append_nil]
      exact pure ()
  | cons event rest inductionHypothesis =>
      have others := inductionHypothesis (recorded ++ [event])
      rw [List.append_assoc, List.singleton_append] at others
      exact (record event recorded).bind fun _ => others

/-- Going on with a result records nothing, so that all that belongs to it is recorded before. -/
theorem settle
    (failure : ε → Failure)
    {result : Except ε α}
    (all : ∀ value, result = .ok value → events value = recorded) :
    Records events (Work.settle failure result) recorded := by
  refine .finished fun value same => all value ?_
  cases result with
  | ok found =>
      exact congrArg Except.ok (Except.ok.inj same)
  | error error =>
      cases same

/-- Done without a break, a work records what belongs to its value. -/
theorem run
    (records : Records events work recorded)
    {before : Meters}
    {engine last : Engine}
    (gains : before.Gains engine.meters recorded)
    {value : α}
    (ran : work.run engine = (.ok value, last)) :
    before.Gains last.meters (events value) := by
  induction records generalizing engine with
  | finished all =>
      obtain ⟨same, rfl⟩ := Prod.mk.inj ran
      rw [all value same]
      exact gains
  | step gainsNow _ inductionHypothesis =>
      exact inductionHypothesis engine (gains.trans (gainsNow engine)) ran

end Records

namespace Silent

variable {α β : Type} {work : Work α}

theorem pure
    (value : α) :
    Silent (Pure.pure value) :=
  fun _ => .pure value

theorem bind
    (first : work.Silent)
    {continuation : α → Work β}
    (second : ∀ value, (continuation value).Silent) :
    (work >>= continuation).Silent :=
  fun recorded => .after first fun value => second value recorded

/-- A step that leaves the meters alone records nothing. -/
theorem step
    {change : Engine → Engine}
    {next : Engine → Work α}
    (keeps : ∀ engine : Engine, (change engine).meters = engine.meters)
    (goesOn : ∀ engine, (next engine).Silent) :
    Silent (.step change next) := by
  intro recorded
  have gains :
      ∀ engine : Engine, engine.meters.Gains (change engine).meters [] := by
    intro engine
    rw [keeps engine]
    exact .refl engine.meters
  refine .step gains fun engine => ?_
  rw [List.append_nil]
  exact goesOn engine recorded

theorem record
    {event : Event}
    (hidden : event.showsInResult = false) :
    (Work.record event).Silent := by
  intro recorded
  refine .step (fun engine => .record_hidden engine.meters hidden) fun _ => ?_
  rw [List.append_nil]
  exact .pure ()

theorem compile
    (source : String) :
    (Work.compile source).Silent := by
  have looksUp : (Work.lookUp source).Silent :=
    .step (fun _ => rfl) fun _ => .pure _
  refine looksUp.bind fun found? => ?_
  cases found? with
  | some compiled =>
      exact (record rfl).bind fun _ => .pure compiled
  | none =>
      have keeps : ∀ compiled, (Work.keep source compiled).Silent :=
        fun compiled => .step (fun _ => rfl) fun _ => .pure _
      refine (record rfl).bind fun _ => ?_
      have settles : (Work.settle .pattern (Pattern.compile source)).Silent :=
        fun _ => Records.settle .pattern fun _ _ => rfl
      exact settles.bind fun compiled =>
        (keeps compiled).bind fun _ => .pure compiled

theorem verdict
    (rule : Rule)
    (fact? : Option Value) :
    (rule.verdict Work.compile fact?).Silent := by
  unfold Rule.verdict
  cases rule.condition with
  | pattern negated source =>
      exact (compile source).bind fun compiled => .pure _
  | equality negated expected =>
      exact .pure _
  | ordering order bound =>
      exact .pure _
  | membership negated items =>
      exact .pure _
  | presence negated =>
      exact .pure _

theorem evaluate
    (facts : Value)
    (group : String)
    (rule : Rule) :
    (Work.evaluate facts group rule).Silent := by
  refine (verdict rule (rule.fact? facts)).bind fun verdict => ?_
  cases verdict with
  | ok matched =>
      exact (Silent.pure ()).bind fun _ => .pure _
  | error problem =>
      exact (record rfl).bind fun _ => .pure _

theorem evaluateAll
    {evaluate : Rule → Work Evaluation}
    (silent : ∀ rule, (evaluate rule).Silent)
    (rules : List Rule) :
    (Group.evaluateAll evaluate rules).Silent := by
  induction rules with
  | nil =>
      exact .pure []
  | cons rule rest inductionHypothesis =>
      exact (silent rule).bind fun evaluation =>
        inductionHypothesis.bind fun others => .pure _

/-- No result shows how it was decided whether a node belongs to a group. -/
theorem membership
    (settings : Settings)
    (node : Node)
    (group : Group) :
    (Work.membership settings node group).Silent := by
  unfold Work.membership
  rw [Group.membership_eq_judge]
  exact (evaluateAll (evaluate _ group.id) _).bind fun evaluations => .pure _

end Silent

/-- The event of a group match, if the node belongs to the examined group. -/
def matchEvent? (examined : Engine.Examined) : Option Event :=
  examined.2.2.reason?.map .groupMatched

/-- Group matches show the events of the examined groups that they stand for. -/
theorem map_match?_eq
    (examined : List Engine.Examined) :
    (examined.filterMap Engine.match?).map
        (fun found => Event.groupMatched found.reason) =
      examined.filterMap matchEvent? := by
  rw [List.map_filterMap]
  refine List.filterMap_congr fun item _ => ?_
  exact Option.map_map _ _ item.2.2.reason?

namespace Records

theorem examine
    (settings : Settings)
    (node : Node)
    (groupSet : GroupSet)
    (hierarchy : Hierarchy)
    (order : List String)
    (recorded : List Event) :
    Records (fun examined => recorded ++ examined.filterMap matchEvent?)
      (Work.examine settings node groupSet hierarchy order) recorded := by
  induction order generalizing recorded with
  | nil =>
      refine .finished ?_
      rintro _ ⟨⟩
      simp
  | cons id rest inductionHypothesis =>
      unfold Work.examine
      cases groupSet.find? id with
      | none =>
          exact inductionHypothesis recorded
      | some group =>
          -- The match of this group is recorded before other groups are examined.
          refine after (.membership settings node group) fun membership => ?_
          refine (recordAll _ recorded).bind fun _ => ?_
          refine (inductionHypothesis _).bind fun others => .finished ?_
          rintro _ ⟨⟩
          rw [List.filterMap_cons, List.append_assoc]
          unfold matchEvent?
          cases membership.reason? <;> rfl

/-- Where the conflicts that a merge comes upon are recorded, those of its result are. -/
theorem settle_mergeGroups
    (groups : List Group)
    (hierarchy : Hierarchy)
    (reported? : Option String)
    (recorded : List Event) :
    Records
      (fun merged =>
        recorded ++
          merged.conflicts.map fun conflict => .valuesConflicted conflict.scope)
      (Work.settle .merge (mergeGroups groups hierarchy reported?))
      (recorded ++
        (conflictsMet groups hierarchy).map fun conflict =>
          .valuesConflicted conflict.scope) := by
  refine settle .merge fun merged merges => ?_
  rw [PlacedGroup.conflictsMet_eq merges]

/-- A work that classifies a node records what the result shows. -/
theorem resolve
    (settings : Settings)
    (node : Node)
    (groupSet : GroupSet)
    (hierarchy : Hierarchy)
    (recorded : List Event) :
    Records (fun resolved => recorded ++ resolved.events)
      (Work.resolve settings node groupSet hierarchy) recorded := by
  refine (examine settings node groupSet hierarchy _ recorded).bind
    fun examined => ?_
  refine (recordAll _ _).bind fun _ => ?_
  refine (settle_mergeGroups _ hierarchy _ _).bind fun merged => ?_
  refine (record _ _).bind fun _ => .finished ?_
  rintro _ ⟨⟩
  unfold ResolvedConfiguration.events
  rw [← map_match?_eq, ← List.append_assoc, ← List.append_assoc]
  rfl

end Records

end Work

namespace Engine

/--
An action that follows recorded events records more of them, so that in the end
those are recorded that belong to its value, if it comes to one.
-/
def Records
    (events : α → List Event)
    (action : Action α)
    (recorded : List Event) :
    Prop :=
  ∀ (before : Meters) (engine : Engine),
    before.Gains engine.meters recorded →
    ∀ value after,
      engine.run action = (.ok value, after) →
      before.Gains after.meters (events value)

/-- An action records no event that shows in results, if it comes to a value. -/
def Silent (action : Action α) : Prop :=
  ∀ recorded, Records (fun _ => recorded) action recorded

namespace Records

variable {α β : Type}
  {events : α → List Event}
  {later : β → List Event}
  {action : Action α}
  {recorded : List Event}

theorem pure
    (value : α) :
    Records events (Pure.pure value) (events value) := by
  intro before engine gains _ _ ran
  cases ran
  exact gains

theorem bind
    (first : Records events action recorded)
    {next : α → Action β}
    (second : ∀ value, Records later (next value) (events value)) :
    Records later (action >>= next) recorded := by
  intro before engine gains value after ran
  rw [run_bind] at ran
  cases firstRan : engine.run action with
  | mk outcome between =>
      rw [firstRan] at ran
      cases outcome with
      | ok found =>
          exact second found before between
            (first before engine gains found between firstRan) value after ran
      | error failure =>
          cases ran

/-- An action that records nothing can go first. -/
theorem after
    (first : Silent action)
    {next : α → Action β}
    (second : ∀ value, Records later (next value) recorded) :
    Records later (action >>= next) recorded :=
  (first recorded).bind second

/-- An action records what the work records that carries it out. -/
theorem of_carriesOut
    {work : Work α}
    {outcome : Except Failure α}
    (carriesOut : work.CarriesOut action outcome)
    (records : work.Records events recorded) :
    Records events action recorded := by
  intro before engine gains value after ran
  exact records.run gains ((carriesOut.runs engine).trans ran)

theorem resolveAll
    (settings : Settings)
    (groupSet : GroupSet)
    (hierarchy : Hierarchy)
    (nodes : List Node)
    (recorded : List Event) :
    Records
      (fun results =>
        recorded ++ results.flatMap ResolvedConfiguration.events)
      (Engine.resolveAll settings groupSet hierarchy nodes) recorded := by
  induction nodes generalizing recorded with
  | nil =>
      intro before engine gains _ _ ran
      cases ran
      simpa using gains
  | cons node rest inductionHypothesis =>
      have first :=
        of_carriesOut (.resolve settings node groupSet hierarchy)
          (.resolve settings node groupSet hierarchy recorded)
      refine first.bind fun resolved => ?_
      refine (inductionHypothesis _).bind fun others => ?_
      rw [List.append_assoc, ← List.flatMap_cons]
      exact pure _

end Records

/-- What validating a hierarchy records shows in no result. -/
theorem showsInResult_hierarchyEvents
    (found : Bool)
    (result : Except HierarchyError Hierarchy) :
    ∀ event ∈ hierarchyEvents found result, event.showsInResult = false := by
  cases result with
  | ok hierarchy =>
      cases found <;> exact List.forall_mem_singleton.mpr rfl
  | error error =>
      cases error with
      | defect defect =>
          exact List.forall_mem_singleton.mpr rfl
      | capacity excess =>
          exact nofun

/-- Validating a hierarchy, with whatever outcome, gains nothing that results show. -/
theorem gains_validate
    (engine : Engine)
    (groupSet : GroupSet) :
    engine.meters.Gains (engine.run (validate groupSet)).2.meters [] := by
  let found := engine.hierarchies.has groupSet.version
  let result := (engine.hierarchies.request groupSet).1
  let changed : Engine :=
    { engine with
      hierarchies := (engine.hierarchies.request groupSet).2,
      meters :=
        { engine.meters.recordAll (hierarchyEvents found result) with
          groups :=
            groupsShown found
              (engine.meters.recordAll (hierarchyEvents found result)).groups
              result } }
  have ran :
      engine.run (validate groupSet) =
        changed.run (settle .rejected result) :=
    rfl
  have after : (changed.run (settle .rejected result)).2 = changed := by
    cases result <;> rfl
  rw [ran, after]
  exact Meters.Gains.recordAll_hidden engine.meters
    (showsInResult_hierarchyEvents found result)

namespace Silent

theorem validate
    (groupSet : GroupSet) :
    Silent (Engine.validate groupSet) := by
  intro recorded before engine gains hierarchy after ran
  have gained := gains.trans (gains_validate engine groupSet)
  rwa [ran, List.append_nil] at gained

/-- Finding out which nodes belong to a group shows in no result. -/
theorem membersAmong
    (settings : Settings)
    (group : Group)
    (nodes : List Node) :
    Silent (Engine.membersAmong settings group nodes) := by
  intro recorded
  induction nodes with
  | nil =>
      exact .pure []
  | cons node rest inductionHypothesis =>
      have first :=
        Records.of_carriesOut (.membership settings node group)
          (Work.Silent.membership settings node group recorded)
      exact first.bind fun membership =>
        inductionHypothesis.bind fun others => .pure _

theorem nodesInGroup
    (settings : Settings)
    (id : String)
    (nodes : List Node)
    (groupSet : GroupSet) :
    Silent (Engine.nodesInGroup settings id nodes groupSet) := by
  intro recorded
  refine .after (validate groupSet) fun _ => ?_
  cases groupSet.find? id with
  | none =>
      exact fun _ _ _ _ _ impossible => nomatch impossible
  | some group =>
      exact .after (membersAmong settings group nodes) fun members => .pure _

end Silent

namespace Records

/-- Handling failures does not matter to an action that comes to a value. -/
theorem onFailure
    {events : α → List Event}
    {action : Action α}
    {recorded : List Event}
    (records : Records events action recorded)
    (handle : Failure → Action Unit) :
    Records events (Engine.onFailure action handle) recorded := by
  intro before engine gains value after ran
  rw [run_onFailure] at ran
  cases firstRan : engine.run action with
  | mk outcome between =>
      rw [firstRan] at ran
      cases outcome with
      | ok found =>
          cases ran
          exact records before engine gains _ _ firstRan
      | error failure =>
          dsimp only at ran
          rw [run_bind] at ran
          cases handled : between.run (handle failure) with
          | mk done last =>
              rw [handled] at ran
              cases done <;> cases ran

/-- Classifying a node records what the result shows. -/
theorem classify
    (settings : Settings)
    (node : Node)
    (groupSet : GroupSet) :
    Records ResolvedConfiguration.events
      (Engine.classify settings node groupSet) [] := by
  refine ((Silent.validate groupSet []).onFailure _).bind fun hierarchy => ?_
  exact of_carriesOut (.resolve settings node groupSet hierarchy)
    (.resolve settings node groupSet hierarchy [])

/-- Classifying nodes in turn records what the results show. -/
theorem classifyMany
    (settings : Settings)
    (nodes : List Node)
    (groupSet : GroupSet) :
    Records (fun results => results.flatMap ResolvedConfiguration.events)
      (Engine.classifyMany settings nodes groupSet) [] :=
  .after (.validate groupSet) fun hierarchy =>
    .resolveAll settings groupSet hierarchy nodes []

end Records

end Engine

namespace Pool

variable {α : Type}
  {workers : Nat}
  {events : α → List Event}
  {before : Meters}
  {pool next : Pool α}

/-- Works have recorded some events in all, each of them those of its own. -/
inductive Tally (events : α → List Event) : List (Work α) → List Event → Prop where
  | nil :
      Tally events [] []
  | cons
      {work : Work α}
      {works : List (Work α)}
      {own others : List Event}
      (records : work.Records events own)
      (rest : Tally events works others) :
      Tally events (work :: works) (own ++ others)

/-- What the works of a pool have recorded is what the meters gained. -/
def Reconciled
    (before : Meters)
    (events : α → List Event)
    (pool : Pool α) :
    Prop :=
  ∃ recorded,
    Tally events pool.works recorded ∧
      before.Gains pool.engine.meters recorded

/-- A step of one of the works adds what it records to what all have recorded. -/
theorem Tally.step
    {earlier others : List (Work α)}
    {change : Engine → Engine}
    {proceed : Engine → Work α}
    {recorded : List Event}
    (tally : Tally events (earlier ++ .step change proceed :: others) recorded)
    (engine : Engine) :
    ∃ now total,
      engine.meters.Gains (change engine).meters now ∧
        Tally events (earlier ++ proceed engine :: others) total ∧
        (recorded ++ now).Perm total := by
  induction earlier generalizing recorded with
  | nil =>
      obtain _ | ⟨records, rest⟩ := tally
      cases records with
      | @step _ _ _ now gains goesOn =>
          -- What is recorded now comes in front of what later works have recorded.
          refine ⟨now, _, gains engine, .cons (goesOn engine) rest, ?_⟩
          rw [List.append_assoc, List.append_assoc]
          exact List.perm_append_comm.append_left _
  | cons work earlier inductionHypothesis =>
      obtain _ | ⟨records, rest⟩ := tally
      obtain ⟨now, total, gains, stepped, permuted⟩ := inductionHypothesis rest
      refine ⟨now, _, gains, .cons records stepped, ?_⟩
      rw [List.append_assoc]
      exact permuted.append_left _

/-- Once all values are collected, what was recorded is what belongs to them. -/
theorem Tally.eq_of_collected?
    {works : List (Work α)}
    {recorded : List Event}
    (tally : Tally events works recorded)
    {values : List α}
    (complete : collected? works = some (.ok values)) :
    recorded = values.flatMap events := by
  induction tally generalizing values with
  | nil =>
      cases complete
      rfl
  | cons records _ inductionHypothesis =>
      cases records with
      | step gains goesOn =>
          contradiction
      | @finished outcome own all =>
          cases outcome with
          | error failure =>
              cases complete
          | ok value =>
              obtain ⟨others, given, mapped⟩ :=
                Option.map_eq_some_iff.mp complete
              cases others with
              | error failure =>
                  cases mapped
              | ok rest =>
                  cases mapped
                  rw [inductionHypothesis given, ← all value rfl]
                  rfl

namespace Reconciled

theorem step
    (reconciled : pool.Reconciled before events)
    (step : Step workers pool next) :
    next.Reconciled before events := by
  obtain ⟨recorded, tally, gained⟩ := reconciled
  obtain ⟨engine, change, proceed, earlier, others, _⟩ := step
  obtain ⟨now, total, gains, stepped, permuted⟩ := tally.step engine
  exact ⟨total, stepped, (gained.trans gains).perm permuted⟩

/-- However the workers take turns, what works have recorded is what the meters gained. -/
theorem steps
    (reconciled : pool.Reconciled before events)
    (steps : Relation.ReflTransGen (Step workers) pool next) :
    next.Reconciled before events := by
  induction steps with
  | refl =>
      exact reconciled
  | tail _ step inductionHypothesis =>
      exact inductionHypothesis.step step

/-- Once all values are collected, the meters have gained what belongs to them. -/
theorem gains
    (reconciled : pool.Reconciled before events)
    {values : List α}
    (complete : collected? pool.works = some (.ok values)) :
    before.Gains pool.engine.meters (values.flatMap events) := by
  obtain ⟨recorded, tally, gained⟩ := reconciled
  rwa [tally.eq_of_collected? complete] at gained

end Reconciled

/-- Before classifications begin, they have recorded nothing. -/
theorem reconciled_ofNodes
    (settings : Settings)
    (groupSet : GroupSet)
    (hierarchy : Hierarchy)
    (nodes : List Node)
    {engine : Engine}
    (silent : before.Gains engine.meters []) :
    (ofNodes settings groupSet hierarchy nodes engine).Reconciled before
      ResolvedConfiguration.events := by
  refine ⟨[], ?_, silent⟩
  unfold ofNodes
  induction nodes with
  | nil =>
      exact .nil
  | cons node rest inductionHypothesis =>
      exact .cons (.resolve settings node groupSet hierarchy [])
        inductionHypothesis

end Pool

end FleetConfig
