import FleetConfig.Proofs.Service.Work
import Mathlib.Data.List.Forall2
import Mathlib.Logic.Hydra

/-!
# However the workers take turns

A pool of works comes to the outcomes of its works, collected in order.  Every
step replaces a work by what is left of it, so no run goes on forever; as long as
something is waited for there is a step; and what the steps of one work do to the
patterns never shows in another.
-/

namespace FleetConfig.Pool

/--
Whatever steps come next, the pool does not get stuck and does not go on forever
before its outcomes are collected, and they are never collected to anything else.
-/
inductive ComesTo
    (workers : Nat)
    (outcome : Except Failure (List α)) :
    Pool α → Prop where
  | intro
      {pool : Pool α}
      (only :
        ∀ collected,
          collected? pool.works = some collected → collected = outcome)
      (notStuck :
        collected? pool.works = none → ∃ next, Step workers pool next)
      (goesOn : ∀ next, Step workers pool next → ComesTo workers outcome next) :
      ComesTo workers outcome pool

/-- The patterns are sound, and each work yields an outcome of its own. -/
structure Computes
    (pool : Pool α)
    (outcomes : List (Except Failure α)) :
    Prop where
  sound : pool.engine.patterns.Sound
  yields : List.Forall₂ Work.Yields pool.works outcomes

variable {α : Type}
  {workers : Nat}
  {pool next : Pool α}
  {outcomes : List (Except Failure α)}

/-- One of the works can be replaced by another one with the same outcome. -/
private theorem exists_outcome
    {before after : List (Work α)}
    {work : Work α}
    (yields : List.Forall₂ Work.Yields (before ++ work :: after) outcomes) :
    ∃ outcome,
      work.Yields outcome ∧
        ∀ other : Work α,
          other.Yields outcome →
          List.Forall₂ Work.Yields (before ++ other :: after) outcomes := by
  induction before generalizing outcomes with
  | nil =>
      obtain ⟨outcome, others, first, rest, rfl⟩ :=
        List.forall₂_cons_left_iff.mp yields
      exact ⟨outcome, first, fun _ replaced => .cons replaced rest⟩
  | cons earlier before inductionHypothesis =>
      obtain ⟨outcome, others, first, rest, rfl⟩ :=
        List.forall₂_cons_left_iff.mp yields
      obtain ⟨found, yieldsFound, replace⟩ := inductionHypothesis rest
      exact ⟨found, yieldsFound, fun other replaced =>
        .cons first (replace other replaced)⟩

/-- A step changes neither the outcomes that the works yield nor the hierarchies. -/
theorem Computes.step
    (computes : pool.Computes outcomes)
    (step : Step workers pool next) :
    next.Computes outcomes ∧
      next.engine.hierarchies = pool.engine.hierarchies := by
  obtain ⟨engine, change, proceed, before, after, free⟩ := step
  obtain ⟨outcome, yields, replace⟩ := exists_outcome computes.yields
  cases yields with
  | step keeps goesOn =>
      obtain ⟨stillSound, untouched⟩ := keeps engine computes.sound
      exact ⟨⟨stillSound, replace _ (goesOn engine computes.sound)⟩, untouched⟩

/-- Any number of steps change neither the outcomes nor the hierarchies. -/
theorem Computes.steps
    (computes : pool.Computes outcomes)
    (steps : Relation.ReflTransGen (Step workers) pool next) :
    next.Computes outcomes ∧
      next.engine.hierarchies = pool.engine.hierarchies := by
  induction steps with
  | refl =>
      exact ⟨computes, rfl⟩
  | tail _ step inductionHypothesis =>
      obtain ⟨before, untouched⟩ := inductionHypothesis
      obtain ⟨after, stillUntouched⟩ := before.step step
      exact ⟨after, stillUntouched.trans untouched⟩

/-- What is collected is collected from the outcomes that the works yield. -/
theorem eq_of_collected?
    {works : List (Work α)}
    (yields : List.Forall₂ Work.Yields works outcomes)
    {collected : Except Failure (List α)}
    (complete : collected? works = some collected) :
    collected = outcomes.mapM id := by
  induction yields generalizing collected with
  | nil =>
      exact (Option.some.inj complete).symm
  | @cons work outcome _ _ first rest inductionHypothesis =>
      cases first with
      | step =>
          contradiction
      | finished =>
          cases outcome with
          | ok value =>
              obtain ⟨others, given, rfl⟩ :=
                Option.map_eq_some_iff.mp complete
              rw [List.mapM_cons, ← inductionHypothesis given]
              cases others <;> rfl
          | error failure =>
              exact (Option.some.inj complete).symm

/-- A pool that is not yet collected waits for a work behind finished ones. -/
theorem exists_waiting
    {works : List (Work α)}
    (incomplete : collected? works = none) :
    ∃ before change proceed after,
      works = before ++ Work.step change proceed :: after ∧
        ∀ work ∈ before, work.isFinished = true := by
  induction works with
  | nil =>
      contradiction
  | cons work rest inductionHypothesis =>
      cases work with
      | step change proceed =>
          exact ⟨[], change, proceed, rest, rfl, by simp⟩
      | finished outcome =>
          cases outcome with
          | error failure =>
              contradiction
          | ok value =>
              obtain ⟨before, change, proceed, after, rfl, allFinished⟩ :=
                inductionHypothesis (Option.map_eq_none_iff.mp incomplete)
              refine ⟨.finished (.ok value) :: before, change, proceed, after,
                rfl, ?_⟩
              exact List.forall_mem_cons.mpr ⟨rfl, allFinished⟩

/-- As long as a work is waited for, a worker can go on with it. -/
theorem exists_step
    (some : 0 < workers)
    (incomplete : collected? pool.works = none) :
    ∃ next, Step workers pool next := by
  obtain ⟨engine, works⟩ := pool
  obtain ⟨before, change, proceed, after, rfl, allFinished⟩ :=
    exists_waiting incomplete
  have noneBefore : before.filter (fun work => !work.isFinished) = [] :=
    List.filter_eq_nil_iff.mpr fun work member => by
      simp [allFinished work member]
  exact ⟨_, .proceed engine change proceed before after (by simpa [noneBefore])⟩

/-- One work is what another one leaves to do after a step. -/
inductive Remains : Work α → Work α → Prop where
  | step
      (change : Engine → Engine)
      (next : Engine → Work α)
      (engine : Engine) :
      Remains (next engine) (.step change next)

theorem wellFounded_remains :
    WellFounded (Remains : Work α → Work α → Prop) := by
  refine ⟨fun work => ?_⟩
  induction work with
  | finished outcome =>
      refine ⟨_, ?_⟩
      rintro _ ⟨⟩
  | step change next inductionHypothesis =>
      refine ⟨_, ?_⟩
      rintro _ ⟨_, _, engine⟩
      exact inductionHypothesis engine

/-- A step replaces one of the works by what remains of it. -/
theorem Step.cutExpand
    (step : Step workers pool next) :
    Relation.CutExpand Remains (next.works : Multiset (Work α))
      (pool.works : Multiset (Work α)) := by
  obtain ⟨engine, change, proceed, before, after, _⟩ := step
  simp only [← Multiset.coe_add, ← Multiset.cons_coe,
    ← Multiset.singleton_add]
  exact (Relation.cutExpand_add_left _).mpr
    (Relation.cutExpand_single_add (.step change proceed engine) _)

/-- No run of a pool goes on forever. -/
theorem wellFounded_step
    (workers : Nat) :
    WellFounded fun next pool : Pool α => Step workers pool next :=
  (InvImage.wf (fun pool : Pool α => (pool.works : Multiset (Work α)))
    wellFounded_remains.cutExpand).mono fun _ _ => Step.cutExpand

/-- A pool with workers comes to the outcomes of its works, collected in order. -/
theorem Computes.comesTo
    (some : 0 < workers)
    (computes : pool.Computes outcomes) :
    pool.ComesTo workers (outcomes.mapM id) := by
  induction pool using (wellFounded_step workers).induction with
  | _ pool inductionHypothesis =>
      refine .intro ?_ ?_ ?_
      · intro collected complete
        exact eq_of_collected? computes.yields complete
      · exact exists_step some
      · intro next step
        exact inductionHypothesis next step (computes.step step).1

/-- A pool comes to one outcome only. -/
theorem ComesTo.unique
    {outcome other : Except Failure (List α)}
    (comes : pool.ComesTo workers outcome)
    (otherComes : pool.ComesTo workers other) :
    outcome = other := by
  induction comes with
  | @intro pool only notStuck goesOn inductionHypothesis =>
      obtain ⟨otherOnly, _, otherGoesOn⟩ := otherComes
      cases complete : collected? pool.works with
      | some collected =>
          rw [← only collected complete, ← otherOnly collected complete]
      | none =>
          obtain ⟨next, step⟩ := notStuck complete
          exact inductionHypothesis next step (otherGoesOn next step)

/-- The classifications of nodes yield the direct ones. -/
theorem computes_ofNodes
    (settings : Settings)
    (groupSet : GroupSet)
    (hierarchy : Hierarchy)
    (nodes : List Node)
    {engine : Engine}
    (sound : engine.patterns.Sound) :
    (ofNodes settings groupSet hierarchy nodes engine).Computes
      (nodes.map fun node =>
        Direct.resolve settings node groupSet hierarchy) := by
  refine ⟨sound, ?_⟩
  rw [ofNodes, List.forall₂_map_left_iff, List.forall₂_map_right_iff,
    List.forall₂_same]
  intro node _
  exact (Work.CarriesOut.resolve settings node groupSet hierarchy).yields

end FleetConfig.Pool
