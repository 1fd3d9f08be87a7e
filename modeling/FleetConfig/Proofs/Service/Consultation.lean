import FleetConfig.Proofs.Hierarchy.Cache
import FleetConfig.Proofs.Service.Direct

/-!
# Actions for a group set

Every action for a group set first asks for its hierarchy, and the hierarchy
decides the rest.  So an action depends on what the engine keeps only through
what its hierarchies give for the group set, and asking for one is all that an
action does to them.
-/

namespace FleetConfig.Engine

/--
Whatever sound patterns the engine holds, an action asks for the hierarchy of a
group set and has the outcome that the rest gives for it; it keeps the patterns
sound and does nothing else to the hierarchies.
-/
def Consults
    (action : Action α)
    (groupSet : GroupSet)
    (rest : Hierarchy → Except Failure α) :
    Prop :=
  ∀ engine : Engine,
    engine.patterns.Sound →
    (engine.run action).1 =
        ((engine.hierarchies.request groupSet).1.mapError .rejected >>=
          rest) ∧
      (engine.run action).2.patterns.Sound ∧
      (engine.run action).2.hierarchies =
        (engine.hierarchies.request groupSet).2

/-- Handling a failure changes what the engine keeps, but it fails all the same. -/
theorem run_onFailure
    (engine : Engine)
    (action : Action α)
    (handle : Failure → Action Unit) :
    engine.run (onFailure action handle) =
      match engine.run action with
      | (.ok value, after) =>
          (.ok value, after)
      | (.error failure, after) =>
          after.run (handle failure >>= fun _ => throw failure) := by
  unfold onFailure run
  rw [ExceptT.run_tryCatch, StateT.run_bind]
  cases ran : StateT.run action.run engine with
  | mk outcome after =>
      cases outcome <;> rfl

/-- Validating a group set settles what its hierarchies give. -/
theorem run_validate
    (engine : Engine)
    (groupSet : GroupSet) :
    ∃ meters,
      engine.run (validate groupSet) =
        ((engine.hierarchies.request groupSet).1.mapError .rejected,
          { engine with
            hierarchies := (engine.hierarchies.request groupSet).2,
            meters }) := by
  let found := engine.hierarchies.has groupSet.version
  let result := (engine.hierarchies.request groupSet).1
  let meters := engine.meters.recordAll (hierarchyEvents found result)
  let changed : Engine :=
    { engine with
      hierarchies := (engine.hierarchies.request groupSet).2,
      meters :=
        { meters with groups := groupsShown found meters.groups result } }
  have ran :
      engine.run (validate groupSet) =
        changed.run (settle .rejected result) :=
    rfl
  refine ⟨changed.meters, ?_⟩
  rw [ran]
  show _ = (result.mapError Failure.rejected, changed)
  cases result <;> rfl

namespace Consults

variable {α β : Type}
  {action : Action α}
  {groupSet : GroupSet}
  {rest : Hierarchy → Except Failure α}

theorem validate
    (groupSet : GroupSet) :
    Consults (Engine.validate groupSet) groupSet pure := by
  intro engine sound
  obtain ⟨meters, ran⟩ := run_validate engine groupSet
  rw [ran]
  refine ⟨?_, sound, rfl⟩
  cases (engine.hierarchies.request groupSet).1 <;> rfl

/-- An action that only records events when it fails has the same outcome. -/
theorem onFailure
    (consults : Consults action groupSet rest)
    {handle : Failure → Action Unit}
    (handles : ∀ failure, Yields (handle failure) (.ok ())) :
    Consults (Engine.onFailure action handle) groupSet rest := by
  intro engine sound
  obtain ⟨given, stillSound, asked⟩ := consults engine sound
  rw [run_onFailure]
  cases ran : engine.run action with
  | mk outcome after =>
      rw [ran] at given stillSound asked
      cases outcome with
      | ok value =>
          exact ⟨given, stillSound, asked⟩
      | error failure =>
          obtain ⟨fails, lastSound, untouched⟩ :=
            Yields.after (handles failure) (.throw failure) after stillSound
          exact ⟨fails.trans given, lastSound, untouched.trans asked⟩

/-- What follows an action that asked for the hierarchy belongs to the rest. -/
theorem bind
    (consults : Consults action groupSet rest)
    {next : α → Action β}
    {outcome : α → Except Failure β}
    (yields : ∀ value, Yields (next value) (outcome value)) :
    Consults (action >>= next) groupSet
      fun hierarchy => rest hierarchy >>= outcome := by
  intro engine sound
  obtain ⟨given, stillSound, asked⟩ := consults engine sound
  rw [run_bind, ← bind_assoc, ← given]
  cases ran : engine.run action with
  | mk found after =>
      rw [ran] at stillSound asked
      cases found with
      | ok value =>
          obtain ⟨last, lastSound, untouched⟩ :=
            yields value after stillSound
          exact ⟨last, lastSound, untouched.trans asked⟩
      | error failure =>
          exact ⟨rfl, stillSound, asked⟩

/-- Classifying a node resolves it under the hierarchy. -/
theorem classify
    (settings : Settings)
    (node : Node)
    (groupSet : GroupSet) :
    Consults (Engine.classify settings node groupSet) groupSet
      (Direct.resolve settings node groupSet) := by
  refine ((validate groupSet).onFailure ?_).bind
    (Yields.resolve settings node groupSet)
  intro failure
  split
  case isTrue =>
    exact .record _
  case isFalse =>
    exact .pure ()

/-- Classifying nodes resolves each of them under the hierarchy. -/
theorem classifyMany
    (settings : Settings)
    (nodes : List Node)
    (groupSet : GroupSet) :
    Consults (Engine.classifyMany settings nodes groupSet) groupSet
      fun hierarchy =>
        nodes.mapM fun node =>
          Direct.resolve settings node groupSet hierarchy :=
  (validate groupSet).bind fun hierarchy =>
    .resolveAll settings groupSet hierarchy nodes

/-- The nodes in a group do not depend on the hierarchy, if there is one. -/
theorem nodesInGroup
    (settings : Settings)
    (id : String)
    (nodes : List Node)
    (groupSet : GroupSet) :
    Consults (Engine.nodesInGroup settings id nodes groupSet) groupSet
      fun _ => Direct.nodesInGroup settings id nodes groupSet := by
  refine (validate groupSet).bind fun _ => ?_
  cases groupSet.find? id with
  | none =>
      exact .throw _
  | some group =>
      exact (Yields.membersAmong settings group nodes).bind fun members _ =>
        .pure _

end Consults

/--
An engine is true to a group set: its patterns are sound, and what it gives when
asked for the hierarchy is what validation gives.
-/
structure TrueTo
    (engine : Engine)
    (settings : Settings)
    (groupSet : GroupSet) :
    Prop where
  sound : engine.patterns.Sound
  validates :
    (engine.hierarchies.request groupSet).1 =
      groupSet.validate (limits settings)

/-- An engine with empty caches is true to every group set. -/
theorem trueTo_fresh
    (settings : Settings)
    (meters : Meters)
    (groupSet : GroupSet) :
    (fresh settings meters).TrueTo settings groupSet :=
  ⟨sound_fresh settings meters, HierarchyCache.request_of_find?_eq_none rfl⟩

/-- An engine gives the direct classification under group sets to which it is true. -/
theorem TrueTo.run_classify
    {engine : Engine}
    {settings : Settings}
    {groupSet : GroupSet}
    (trueTo : engine.TrueTo settings groupSet)
    (node : Node) :
    (engine.run (classify settings node groupSet)).1 =
      Direct.classify settings node groupSet := by
  rw [(Consults.classify settings node groupSet engine trueTo.sound).1,
    trueTo.validates]
  rfl

/-- An engine with empty caches gives the direct classification. -/
theorem run_classify_fresh
    (settings : Settings)
    (meters : Meters)
    (node : Node)
    (groupSet : GroupSet) :
    ((fresh settings meters).run (classify settings node groupSet)).1 =
      Direct.classify settings node groupSet :=
  (trueTo_fresh settings meters groupSet).run_classify node

/-- What an engine with empty caches gives for a single node. -/
def classifyAlone
    (settings : Settings)
    (meters : Meters)
    (node : Node)
    (groupSet : GroupSet) :
    Except Failure ResolvedConfiguration :=
  ((fresh settings meters).run (classify settings node groupSet)).1

/-- A rejected group set classifies no node. -/
theorem classifyAlone_of_rejected
    {settings : Settings}
    {groupSet : GroupSet}
    {error : HierarchyError}
    (rejected : groupSet.validate (limits settings) = .error error)
    (meters : Meters)
    (node : Node) :
    classifyAlone settings meters node groupSet = .error (.rejected error) := by
  unfold classifyAlone
  rw [run_classify_fresh]
  unfold Direct.classify
  rw [rejected]
  rfl

/-- Under an accepted group set a node is resolved. -/
theorem classifyAlone_of_accepted
    {settings : Settings}
    {groupSet : GroupSet}
    {hierarchy : Hierarchy}
    (accepted : groupSet.validate (limits settings) = .ok hierarchy)
    (meters : Meters)
    (node : Node) :
    classifyAlone settings meters node groupSet =
      Direct.resolve settings node groupSet hierarchy := by
  unfold classifyAlone
  rw [run_classify_fresh]
  unfold Direct.classify
  rw [accepted]
  rfl

end FleetConfig.Engine
