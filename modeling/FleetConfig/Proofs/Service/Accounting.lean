import FleetConfig.Proofs.Service.Refusal

/-!
# The books of a service

A service counts in two places.  Its totals are added to after the fact, from what a
request gave; its meters are added to where things happen, inside of the examination
and the merge of groups.  As long as requests fail only in ways that callers are told
to expect, both agree with what was given.
-/

namespace FleetConfig

/-- The results that an answer consists of. -/
def Answer.results : Answer → List ResolvedConfiguration
  | .configuration resolved =>
      [resolved]
  | .configurations resolved =>
      resolved
  | .hierarchy _ =>
      []
  | .certnames _ =>
      []
  | .done =>
      []

namespace Exchange

/-- The results that were given in an exchange. -/
def results (exchange : Exchange) : List ResolvedConfiguration :=
  match exchange.outcome with
  | .ok answer =>
      answer.results
  | .error _ =>
      []

/-- Whether nodes were to be classified and the structure of the group set was at fault. -/
def failsStructurally (exchange : Exchange) : Bool :=
  match exchange.request, exchange.outcome with
  | .work task _, .error failure =>
      task.classifies && failure.isStructural
  | _, _ =>
      false

/-- All results that were given in some exchanges. -/
def allResults (exchanges : List Exchange) : List ResolvedConfiguration :=
  exchanges.flatMap results

end Exchange

namespace ResolvedConfiguration

section Events

variable (resolved : ResolvedConfiguration)

/-- A result shows once that it was given. -/
theorem count_events_classified :
    resolved.events.count (.classified true) = 1 := by
  simp [events, List.count, List.countP_map, Function.comp_def, beq_eq_decide]

/-- A result shows an event for each of its group matches. -/
theorem count_events_groupMatched
    (reason : MatchReason) :
    resolved.events.count (.groupMatched reason) =
      resolved.groups.countP (·.reason = reason) := by
  simp [events, List.count, List.countP_map, Function.comp_def, beq_eq_decide]

/-- A result shows an event for each of its conflicts. -/
theorem count_events_valuesConflicted
    (scope : ConflictScope) :
    resolved.events.count (.valuesConflicted scope) =
      resolved.conflicts.countP (·.scope = scope) := by
  simp [events, List.count, List.countP_map, Function.comp_def, beq_eq_decide]

end Events

variable (results : List ResolvedConfiguration)

theorem count_flatMap_classified :
    (results.flatMap events).count (.classified true) = results.length := by
  rw [List.count_flatMap]
  simp [Function.comp_def, count_events_classified]

theorem count_flatMap_groupMatched
    (reason : MatchReason) :
    (results.flatMap events).count (.groupMatched reason) =
      (results.flatMap (·.groups)).countP (·.reason = reason) := by
  rw [List.count_flatMap, List.countP_flatMap]
  refine congrArg List.sum (List.map_congr_left fun resolved _ => ?_)
  exact resolved.count_events_groupMatched reason

theorem count_flatMap_valuesConflicted
    (scope : ConflictScope) :
    (results.flatMap events).count (.valuesConflicted scope) =
      (results.flatMap (·.conflicts)).countP (·.scope = scope) := by
  rw [List.count_flatMap, List.countP_flatMap]
  refine congrArg List.sum (List.map_congr_left fun resolved _ => ?_)
  exact resolved.count_events_valuesConflicted scope

end ResolvedConfiguration

namespace Totals

/-- Totals with results and structural failures added. -/
def plus
    (totals : Totals)
    (results : List ResolvedConfiguration)
    (failures : Nat) :
    Totals :=
  { classifications := totals.classifications + results.length,
    structuralFailures := totals.structuralFailures + failures,
    conflicts := totals.conflicts + (results.map (·.conflicts.length)).sum,
    ruleErrors := totals.ruleErrors + (results.map (·.errors.length)).sum }

theorem plus_plus
    (totals : Totals)
    (results others : List ResolvedConfiguration)
    (failures moreFailures : Nat) :
    (totals.plus results failures).plus others moreFailures =
      totals.plus (results ++ others) (failures + moreFailures) := by
  simp [plus, Nat.add_assoc]

/-- Sizes that are added up from a start are added to it. -/
theorem foldr_add_eq
    (size : ResolvedConfiguration → Nat)
    (start : Nat)
    (results : List ResolvedConfiguration) :
    results.foldr (size · + ·) start = start + (results.map size).sum := by
  induction results with
  | nil =>
      rfl
  | cons resolved rest inductionHypothesis =>
      rw [List.foldr_cons, inductionHypothesis, List.map_cons, List.sum_cons,
        Nat.add_left_comm]

theorem addResults_eq_plus
    (totals : Totals)
    (results : List ResolvedConfiguration) :
    totals.addResults results = totals.plus results 0 := by
  unfold addResults plus
  rw [foldr_add_eq (·.conflicts.length), foldr_add_eq (·.errors.length)]
  rfl

end Totals

namespace Service

/--
From one state of a service to another, some results were given and structural
failures occurred: the totals have gone up by them, and the meters have gained what
the results show.
-/
structure Accounts
    (service after : Service)
    (results : List ResolvedConfiguration)
    (failures : Nat) :
    Prop where
  totals : after.totals = service.totals.plus results failures
  gains :
    service.engine.meters.Gains after.engine.meters
      (results.flatMap ResolvedConfiguration.events)

namespace Accounts

variable {service between after : Service}

theorem trans
    {results others : List ResolvedConfiguration}
    {failures moreFailures : Nat}
    (first : service.Accounts between results failures)
    (second : between.Accounts after others moreFailures) :
    service.Accounts after (results ++ others) (failures + moreFailures) := by
  constructor
  case totals =>
    rw [second.totals, first.totals, Totals.plus_plus]
  case gains =>
    rw [List.flatMap_append]
    exact first.gains.trans second.gains

/-- Where nothing is given and nothing fails, nothing is to be counted. -/
theorem of_silent
    (sameTotals : after.totals = service.totals)
    (silent : service.engine.meters.Gains after.engine.meters []) :
    service.Accounts after [] 0 :=
  ⟨sameTotals, silent⟩

end Accounts

variable {service after : Service}

/-- An action whose results are counted records what they show. -/
theorem accounts_performCounted
    {action : Action α}
    {results : α → List ResolvedConfiguration}
    (records :
      Engine.Records
        (fun value => (results value).flatMap ResolvedConfiguration.events)
        action [])
    {value : α}
    (given : (service.performCounted action results).1 = .ok value) :
    service.Accounts (service.performCounted action results).2
      (results value) 0 := by
  unfold performCounted perform at given ⊢
  cases ran : service.engine.run action with
  | mk outcome engine =>
      rw [ran] at given
      cases given
      constructor
      case totals =>
        exact Totals.addResults_eq_plus service.totals (results value)
      case gains =>
        exact records _ service.engine (.refl _) value engine ran

/-- An action of which nothing is counted records nothing that results show. -/
theorem accounts_perform
    {action : Action α}
    (silent : Engine.Silent action)
    {value : α}
    (given : (service.perform action).1 = .ok value) :
    service.Accounts (service.perform action).2 [] 0 := by
  unfold perform at given ⊢
  cases ran : service.engine.run action with
  | mk outcome engine =>
      rw [ran] at given
      cases given
      exact .of_silent rfl (silent [] _ service.engine (.refl _) value engine ran)

/-- A wrapped outcome is a value only if the outcome is one. -/
theorem exists_of_map_eq_ok
    {outcome : Except Failure α}
    {wrap : α → Answer}
    {answer : Answer}
    (given : outcome.map wrap = .ok answer) :
    ∃ value, outcome = .ok value ∧ answer = wrap value := by
  cases outcome with
  | error failure =>
      cases given
  | ok value =>
      exact ⟨value, rfl, (Except.ok.inj given).symm⟩

/-- Whatever a task gives has been counted and recorded. -/
theorem accounts_work
    {task : Task}
    {groupSet : GroupSet}
    {answer : Answer}
    (given : (service.work task groupSet).1 = .ok answer) :
    service.Accounts (service.work task groupSet).2 answer.results 0 := by
  cases task with
  | classify node =>
      have classified :
          (service.classify node groupSet).1.map .configuration = .ok answer :=
        given
      obtain ⟨resolved, outcome, rfl⟩ := exists_of_map_eq_ok classified
      have records :
          Engine.Records
            (fun resolved => [resolved].flatMap ResolvedConfiguration.events)
            (Engine.classify service.settings node groupSet) [] := by
        simpa only [List.flatMap_singleton] using
          Engine.Records.classify service.settings node groupSet
      exact accounts_performCounted records outcome
  | classifyMany nodes =>
      have classified :
          (service.classifyMany nodes groupSet).1.map .configurations =
            .ok answer :=
        given
      obtain ⟨resolved, outcome, rfl⟩ := exists_of_map_eq_ok classified
      exact accounts_performCounted
        (.classifyMany service.settings nodes groupSet) outcome
  | validate =>
      have validated :
          (service.validate groupSet).1.map .hierarchy = .ok answer :=
        given
      obtain ⟨hierarchy, outcome, rfl⟩ := exists_of_map_eq_ok validated
      exact accounts_perform (.validate groupSet) outcome
  | nodesInGroup id nodes =>
      have listed :
          (service.nodesInGroup id nodes groupSet).1.map .certnames =
            .ok answer :=
        given
      obtain ⟨names, outcome, rfl⟩ := exists_of_map_eq_ok listed
      exact accounts_perform
        (.nodesInGroup service.settings id nodes groupSet) outcome

/-- Asking for a group that is not there changes no totals and shows in no result. -/
theorem accounts_of_missing
    {groupSet : GroupSet}
    {id : String}
    (missing : groupSet.find? id = none)
    (nodes : List Node) :
    service.Accounts (service.work (.nodesInGroup id nodes) groupSet).2 [] 0 := by
  refine .of_silent rfl ?_
  have gains := Engine.gains_validate service.engine groupSet
  change service.engine.meters.Gains
    (service.engine.run (Engine.nodesInGroup service.settings id nodes groupSet)).2.meters
    []
  unfold Engine.nodesInGroup
  rw [Engine.run_bind]
  cases ran : service.engine.run (Engine.validate groupSet) with
  | mk outcome engine =>
      rw [ran] at gains
      cases outcome with
      | error failure =>
          exact gains
      | ok hierarchy =>
          rw [missing]
          exact gains

/-- Whatever is answered has been counted and recorded. -/
theorem Answers.accounts_of_ok
    {request : Request}
    {answer : Answer}
    (answers : service.Answers request (.ok answer) after) :
    service.Accounts after answer.results 0 := by
  generalize isOutcome : Except.ok answer = outcome at answers
  cases answers with
  | inTurn =>
      cases request with
      | work task presented =>
          cases presented with
          | invalid complaints =>
              cases isOutcome
          | valid groupSet =>
              change _ = (service.work task groupSet).1.mapError _ at isOutcome
              cases given : (service.work task groupSet).1 with
              | error failure =>
                  rw [given] at isOutcome
                  cases isOutcome
              | ok found =>
                  rw [given] at isOutcome
                  cases isOutcome
                  exact accounts_work given
      | clearCaches =>
          cases isOutcome
          exact .of_silent rfl (.refl _)
      | start =>
          cases isOutcome
          exact .of_silent rfl (.refl _)
      | shutDown =>
          cases isOutcome
          show service.Accounts service.shutDown [] 0
          unfold shutDown
          split <;> exact .of_silent rfl (.refl _)
  | @sideBySide nodes groupSet _ _ hierarchy engine validated _ steps outcome
      complete =>
      cases outcome with
      | error failure =>
          cases isOutcome
      | ok results =>
          cases isOutcome
          have silent := Engine.gains_validate service.engine groupSet
          rw [validated] at silent
          have reconciled :=
            Pool.reconciled_ofNodes service.settings groupSet hierarchy nodes
              silent
          exact ⟨Totals.addResults_eq_plus service.totals results,
            (reconciled.steps steps).gains complete⟩

variable {settings : Settings} {groupSets : List GroupSet}

/-- Of a foreseen failure only a structural one is counted, and nothing is recorded. -/
theorem Answers.accounts_of_error
    (reachable : Reachable settings groupSets service)
    {request : Request}
    {failure : RequestFailure}
    (answers : service.Answers request (.error failure) after)
    (foreseen : failure.isForeseen = true) :
    service.Accounts after []
      (Exchange.failsStructurally ⟨request, .error failure⟩).toNat := by
  cases request with
  | work task presented =>
      rcases answers.cases_of_isForeseen reachable foreseen with
        ⟨meters, silent, rfl⟩ | ⟨id, nodes, groupSet, rfl, missing, rfl, rfl⟩
      · exact ⟨rfl, silent⟩
      · exact accounts_of_missing missing nodes
  | clearCaches =>
      cases answers
  | start =>
      cases answers
  | shutDown =>
      cases answers

/-- Whatever is answered, unless it is an unforeseen failure, the books agree. -/
theorem Answers.accounts
    (reachable : Reachable settings groupSets service)
    {exchange : Exchange}
    (answers : service.Answers exchange.request exchange.outcome after)
    (foreseen :
      ∀ failure, exchange.outcome = .error failure → failure.isForeseen = true) :
    service.Accounts after exchange.results
      exchange.failsStructurally.toNat := by
  obtain ⟨request, outcome⟩ := exchange
  cases outcome with
  | error failure =>
      exact answers.accounts_of_error reachable (foreseen failure rfl)
  | ok answer =>
      have noFailure :
          (Exchange.mk request (.ok answer)).failsStructurally = false := by
        cases request <;> rfl
      rw [noFailure]
      exact answers.accounts_of_ok

/-- The books agree at the end of a conversation if they do for every exchange. -/
theorem Converses.accounts
    (reachable : Reachable settings groupSets service)
    {exchanges : List Exchange}
    (presented : presentedIn exchanges ⊆ groupSets)
    (converses : service.Converses exchanges after)
    (foreseen :
      ∀ exchange ∈ exchanges, ∀ failure,
        exchange.outcome = .error failure → failure.isForeseen = true) :
    service.Accounts after (Exchange.allResults exchanges)
      (exchanges.countP Exchange.failsStructurally) := by
  induction converses with
  | nil service =>
      exact .of_silent rfl (.refl _)
  | @cons service between last exchange rest answers _ inductionHypothesis =>
      obtain ⟨now, later⟩ := List.append_subset.mp presented
      obtain ⟨foreseenNow, foreseenLater⟩ := List.forall_mem_cons.mp foreseen
      have first := answers.accounts reachable foreseenNow
      have others :=
        inductionHypothesis (reachable.answers now answers) later foreseenLater
      have counted :
          (exchange :: rest).countP Exchange.failsStructurally =
            exchange.failsStructurally.toNat +
              rest.countP Exchange.failsStructurally := by
        rw [List.countP_cons, Nat.add_comm]
        cases exchange.failsStructurally <;> rfl
      rw [counted]
      exact first.trans others

/--
A new service has had a conversation in which requests failed only in ways that
callers are told to expect.  Its totals tell how many results were given, how many
classifications failed for the structure of a group set, and how many conflicts and
rule errors are in the results.  Its meters have gone up by the number of results and,
for each reason and scope, of the group matches and conflicts in them.
-/
theorem conversation_balances
    {settings : Settings}
    {meters : Meters}
    {exchanges : List Exchange}
    {service : Service}
    (converses : (create settings meters).Converses exchanges service)
    (foreseen :
      ∀ exchange ∈ exchanges, ∀ failure,
        exchange.outcome = .error failure → failure.isForeseen = true) :
    service.totals =
        { classifications := (Exchange.allResults exchanges).length,
          structuralFailures := exchanges.countP Exchange.failsStructurally,
          conflicts :=
            ((Exchange.allResults exchanges).map (·.conflicts.length)).sum,
          ruleErrors :=
            ((Exchange.allResults exchanges).map (·.errors.length)).sum } ∧
      service.engine.meters.number (.classified true) =
        meters.number (.classified true) +
          (Exchange.allResults exchanges).length ∧
      (∀ reason,
        service.engine.meters.number (.groupMatched reason) =
          meters.number (.groupMatched reason) +
            ((Exchange.allResults exchanges).flatMap (·.groups)).countP
              (·.reason = reason)) ∧
      ∀ scope,
        service.engine.meters.number (.valuesConflicted scope) =
          meters.number (.valuesConflicted scope) +
            ((Exchange.allResults exchanges).flatMap (·.conflicts)).countP
              (·.scope = scope) := by
  obtain ⟨totals, gains⟩ :=
    converses.accounts
      (.created meters : Reachable settings (presentedIn exchanges) _)
      (List.Subset.refl _) foreseen
  refine ⟨?totals, ?results, fun reason => ?groups, fun scope => ?conflicts⟩
  case totals =>
    rw [totals]
    simp [Totals.plus, create, Totals.zero]
  case results =>
    rw [gains _ rfl, ResolvedConfiguration.count_flatMap_classified]
    rfl
  case groups =>
    rw [gains _ rfl, ResolvedConfiguration.count_flatMap_groupMatched]
    rfl
  case conflicts =>
    rw [gains _ rfl, ResolvedConfiguration.count_flatMap_valuesConflicted]
    rfl

/-- A node of the sample is in three groups, of which two disagree twice and one has a bad rule. -/
theorem Sample.exists_resolve :
    ∃ resolved,
      Direct.resolve {} Sample.node Sample.groupSet
          Sample.groupSet.hierarchy =
        .ok resolved ∧
      resolved.groups.map (·.reason) = [.matchAll, .pinned, .rules] ∧
      resolved.conflicts.map (·.scope) = [.parameters, .environment] ∧
      resolved.errors.length = 1 := by
  obtain ⟨examined, merged, given, mergesTo, reasons, scopes, errors⟩ :
      ∃ examined merged,
        Direct.examine {} Sample.node Sample.groupSet.hierarchy
            (Sample.groupSet.hierarchy.order.filterMap Sample.groupSet.find?) =
          .ok examined ∧
        mergeGroups (Direct.matched examined) Sample.groupSet.hierarchy none =
          .ok merged ∧
        (examined.filterMap Engine.match?).map (·.reason) =
          [.matchAll, .pinned, .rules] ∧
        merged.conflicts.map (·.scope) = [.parameters, .environment] ∧
        (examined.flatMap (·.2.2.errors)).length = 1 :=
    ⟨_, _, by cbv, by cbv, by cbv, by cbv, by cbv⟩
  refine ⟨Direct.configuration Sample.node Sample.groupSet.version examined
    merged, ?_, reasons, scopes, errors⟩
  have sameMerge :
      mergeGroups (Direct.matched examined) Sample.groupSet.hierarchy
          Sample.node.environment? =
        .ok merged :=
    mergesTo
  unfold Direct.resolve
  rw [given]
  dsimp only [bind, Except.bind]
  rw [sameMerge]
  rfl

/-- Requests of which one is fulfilled with a result and two fail. -/
def Sample.talk : List Request :=
  [.work (.classify Sample.node) (.valid Sample.groupSet),
    .work (.classifyMany [Sample.node]) (.valid (Sample.loop "v2")),
    .work (.nodesInGroup "none" []) (.valid Sample.groupSet),
    .shutDown]

theorem Sample.identify_talk :
    GroupSet.VersionsIdentify (Request.allGroupSets Sample.talk) := by
  have presented :
      ∀ groupSet ∈ Request.allGroupSets Sample.talk,
        groupSet = Sample.groupSet ∨ groupSet = Sample.loop "v2" := by
    intro groupSet member
    simp only [Request.allGroupSets, Sample.talk, Request.groupSets,
      List.flatMap_cons, List.flatMap_nil, List.mem_append,
      List.mem_singleton, List.not_mem_nil] at member
    tauto
  have versions : Sample.groupSet.version ≠ (Sample.loop "v2").version := by
    decide
  intro first firstMember second secondMember same
  rcases presented first firstMember with rfl | rfl <;>
    rcases presented second secondMember with rfl | rfl
  · rfl
  · exact absurd same versions
  · exact absurd same.symm versions
  · rfl

/-- After the sample conversation one result with two conflicts and an error is in the books. -/
theorem conversation_balances_sample :
    ∃ exchanges service,
      exchanges.map Exchange.request = Sample.talk ∧
        (create {} .zero).Converses exchanges service ∧
        (∀ exchange ∈ exchanges, ∀ failure,
          exchange.outcome = .error failure → failure.isForeseen = true) ∧
        service.totals = ⟨1, 1, 2, 1⟩ ∧
        service.engine.meters.number (.classified true) = 1 ∧
        service.engine.meters.number (.groupMatched .pinned) = 1 ∧
        service.engine.meters.number (.valuesConflicted .globals) = 0 := by
  obtain ⟨resolved, resolves, reasons, scopes, errors⟩ :=
    Sample.exists_resolve
  let exchanges : List Exchange :=
    List.zipWith Exchange.mk Sample.talk
      [.ok (.configuration resolved),
        .error (.failed (.rejected (.defect (.cycles [["x", "x"]])))),
        .error (.failed (.groupNotFound "none")),
        .ok .done]
  have classified :
      Direct.respond {}
          (.work (.classify Sample.node) (.valid Sample.groupSet)) =
        .ok (.configuration resolved) := by
    simp only [Direct.respond, Direct.answer, Sample.accepted, resolves,
      Except.mapError, bind, Except.bind]
    rfl
  have refused :
      Direct.respond {}
          (.work (.classifyMany [Sample.node]) (.valid (Sample.loop "v2"))) =
        .error (.failed (.rejected (.defect (.cycles [["x", "x"]])))) := by
    cbv
  have notFound :
      Direct.respond {}
          (.work (.nodesInGroup "none" []) (.valid Sample.groupSet)) =
        .error (.failed (.groupNotFound "none")) := by
    cbv
  have converses :
      (create {} .zero).Converses exchanges
        ((create {} .zero).respondAll Sample.talk).2 := by
    have conversation := converses_respondAll (create {} .zero) Sample.talk
    rw [(serves_create {} .zero _).respondAll_eq Sample.identify_talk
      (List.Subset.refl _)] at conversation
    simp only [Sample.talk, List.map_cons, List.map_nil, classified, refused,
      notFound] at conversation
    exact conversation
  have foreseen :
      ∀ exchange ∈ exchanges, ∀ failure,
        exchange.outcome = .error failure → failure.isForeseen = true := by
    simp [exchanges, Sample.talk, RequestFailure.isForeseen,
      Failure.isForeseen]
  have given : Exchange.allResults exchanges = [resolved] :=
    rfl
  have failed : exchanges.countP Exchange.failsStructurally = 1 :=
    rfl
  have conflicts : resolved.conflicts.length = 2 := by
    simpa using congrArg List.length scopes
  have pinned : resolved.groups.countP (·.reason = .pinned) = 1 := by
    have counted := congrArg (List.countP (· = .pinned)) reasons
    rwa [List.countP_map] at counted
  have globals : resolved.conflicts.countP (·.scope = .globals) = 0 := by
    have counted := congrArg (List.countP (· = .globals)) scopes
    rwa [List.countP_map] at counted
  obtain ⟨totals, results, matched, conflicted⟩ :=
    conversation_balances converses foreseen
  refine ⟨exchanges, _, rfl, converses, foreseen, ?_, results, ?_, ?_⟩
  · rw [totals, given, failed]
    simp [conflicts, errors]
  · rw [matched, given, List.flatMap_singleton, pinned]
    rfl
  · rw [conflicted, given, List.flatMap_singleton, globals]
    rfl

end Service

end FleetConfig
