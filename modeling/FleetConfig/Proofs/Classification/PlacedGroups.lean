import FleetConfig.Proofs.Classification.Proposal
import FleetConfig.Proofs.Hierarchy.Acceptance
import FleetConfig.Proofs.Value.TextKeys
import Mathlib.Data.List.TakeWhile

/-!
# Groups at their depths

Merging places the groups at their depths and puts them in order.  What they
propose for a key comes in that order, and the value under each merged key is
the one decided on among the proposals.
-/

namespace FleetConfig

namespace ConflictScope

/-- The fields of a group that a scope is about. -/
def payload : ConflictScope → Group → Fields
  | .parameters =>
      Group.parameters
  | .globals =>
      Group.globals
  | .environment =>
      PlacedGroup.assignedEnvironment

end ConflictScope

/--
A group proposes a value for a key: as a parameter, as a global variable or as
its environment.
-/
inductive Group.Proposes
    (group : Group) :
    ConflictScope → String → Value → Prop where
  | parameter
      {key : String}
      {value : Value}
      (set : Fields.find? group.parameters key = some value) :
      group.Proposes .parameters key value
  | global
      {key : String}
      {value : Value}
      (set : Fields.find? group.globals key = some value) :
      group.Proposes .globals key value
  | environment
      {environment : String}
      (assigns : group.assignsEnvironment = true)
      (named : group.environment? = some environment)
      (notEmpty : environment ≠ "") :
      group.Proposes .environment "environment" (.text environment)

namespace PlacedGroup

/-- The only key under which an environment is assigned, and its value. -/
theorem find?_assignedEnvironment
    {group : Group}
    {key : String}
    {value : Value} :
    Fields.find? (assignedEnvironment group) key = some value ↔
      group.Proposes .environment key value := by
  constructor
  · intro found
    unfold assignedEnvironment at found
    cases named : group.environment? with
    | none =>
        simp [named, Fields.find?] at found
    | some environment =>
        rw [named] at found
        dsimp only at found
        split at found
        case isTrue assigned =>
          rw [Bool.and_eq_true, Bool.not_eq_true',
            String.isEmpty_eq_false_iff] at assigned
          have listed := Entries.mem_of_lookup found
          cases List.mem_singleton.mp listed
          exact .environment assigned.1 named assigned.2
        case isFalse =>
          simp [Fields.find?] at found
  · intro proposes
    cases proposes with
    | environment assigns named notEmpty =>
        simp [assignedEnvironment, named, assigns, notEmpty, Fields.find?]

/-- A group proposes exactly what the fields for the scope hold. -/
theorem proposes_iff
    {group : Group}
    {scope : ConflictScope}
    {key : String}
    {value : Value} :
    group.Proposes scope key value ↔
      Fields.find? (scope.payload group) key = some value := by
  cases scope with
  | parameters =>
      exact ⟨fun | .parameter set => set, .parameter⟩
  | globals =>
      exact ⟨fun | .global set => set, .global⟩
  | environment =>
      exact find?_assignedEnvironment.symm

/-- Where a placed group stands. -/
def standing (placed : PlacedGroup) : Place :=
  (placed.1, placed.2.id)

/-- Placed groups list groups of a set at their depths, in order of their places. -/
structure Lists
    (groupSet : GroupSet)
    (groups : List Group)
    (ordered : List PlacedGroup) :
    Prop where
  mem_iff :
    ∀ depth group,
      (depth, group) ∈ ordered ↔
        group ∈ groups ∧ groupSet.parents.HasDepth group.id depth
  inOrder :
    ordered.Pairwise fun left right =>
      Place.Before left.standing right.standing

/-- Which groups there are, and how deep they stand, decides how they are listed. -/
theorem Lists.eq_of_mem_iff
    {groupSet otherSet : GroupSet}
    {groups others : List Group}
    {ordered otherOrdered : List PlacedGroup}
    (lists : Lists groupSet groups ordered)
    (otherLists : Lists otherSet others otherOrdered)
    (sameMembers : ∀ group, group ∈ groups ↔ group ∈ others)
    (sameDepths :
      ∀ id depth,
        groupSet.parents.HasDepth id depth ↔
          otherSet.parents.HasDepth id depth) :
    ordered = otherOrdered := by
  apply Place.eq_of_mem_iff_of_before standing lists.inOrder otherLists.inOrder
  rintro ⟨depth, group⟩
  rw [lists.mem_iff, otherLists.mem_iff, sameMembers, sameDepths]

/-- What groups in order set together. -/
def merge
    (ordered : List PlacedGroup)
    (reported? : Option String) :
    Merged :=
  { classes :=
      Text.distinctAscending (ordered.flatMap fun (_, group) => group.classes),
    parameters := values Group.parameters ordered,
    globals := values Group.globals ordered,
    environment? := environment? ordered reported?,
    conflicts :=
      conflicts Group.parameters .parameters ordered ++
        conflicts Group.globals .globals ordered ++
        conflicts assignedEnvironment .environment ordered }

/-- Groups at the depths that a hierarchy gives them. -/
def placed
    (hierarchy : Hierarchy)
    (groups : List Group) :
    List PlacedGroup :=
  groups.map fun group => ((hierarchy.place group.id).1, group)

theorem place_eq_ok
    {hierarchy : Hierarchy}
    {groups : List Group}
    (known :
      ∀ group ∈ groups, ∃ depth, hierarchy.depth? group.id = some depth) :
    place hierarchy groups = .ok (placed hierarchy groups) := by
  induction groups with
  | nil =>
      rfl
  | cons group rest inductionHypothesis =>
      obtain ⟨depth, found⟩ := known group List.mem_cons_self
      have restPlaced := inductionHypothesis fun other member =>
        known other (List.mem_cons_of_mem group member)
      simp [place, placed, found, restPlaced, Except.map, Hierarchy.place]

section Merging

variable {groupSet : GroupSet} {groups : List Group}

/-- Putting the placed groups in order lists the groups. -/
theorem inOrder_placed_lists
    (sound : groupSet.parents.Sound)
    (distinct : groups.Nodup)
    (members : groups ⊆ groupSet.groups) :
    Lists groupSet groups
      (inOrder (placed groupSet.hierarchy groups)) := by
  have permuted :=
    List.mergeSort_perm (placed groupSet.hierarchy groups)
      fun left right => Place.atMost left.standing right.standing
  constructor
  case mem_iff =>
    intro depth group
    have listed :
        (depth, group) ∈ inOrder (placed groupSet.hierarchy groups) ↔
          (depth, group) ∈ placed groupSet.hierarchy groups :=
      permuted.mem_iff
    rw [listed]
    simp only [placed, List.mem_map, Prod.mk.injEq]
    constructor
    · rintro ⟨_, member, rfl, rfl⟩
      exact ⟨member, GroupSet.hasDepth_place sound (members member)⟩
    · rintro ⟨member, stands⟩
      have standsThere :=
        GroupSet.hasDepth_place sound (members member)
      exact ⟨group, member, standsThere.unique sound.distinct stands, rfl⟩
  case inOrder =>
    have places :
        (placed groupSet.hierarchy groups).map standing =
          groups.map fun group => groupSet.hierarchy.place group.id := by
      simp [placed, standing, Function.comp_def, Hierarchy.place]
    refine Place.pairwise_before_mergeSort standing ?_
    rw [places]
    refine distinct.map_on ?_
    intro group member other otherMember samePlace
    exact GroupSet.eq_of_id_eq sound (members member)
      (members otherMember) (congrArg Prod.snd samePlace)

theorem areComparable_of_hasTextKeys
    {ordered : List PlacedGroup}
    (lists : Lists groupSet groups ordered)
    (textKeys : ∀ group ∈ groups, group.HasTextKeys) :
    areComparable ordered = true := by
  unfold areComparable
  rw [List.all_eq_true]
  rintro ⟨depth, group⟩ listed
  have keys := textKeys group ((lists.mem_iff depth group).mp listed).1
  rw [Bool.and_eq_true, List.all_eq_true, List.all_eq_true]
  exact ⟨fun entry isParameter =>
      Value.isSortable_of_hasTextKeys entry.2
        (keys.parameters entry isParameter),
    fun entry isGlobal =>
      Value.isSortable_of_hasTextKeys entry.2
        (keys.globals entry isGlobal)⟩

/-- Groups of a sound hierarchy are all placed, so that only comparing them is left to fail. -/
theorem mergeGroups_of_sound
    (sound : groupSet.parents.Sound)
    (members : groups ⊆ groupSet.groups)
    (reported? : Option String) :
    mergeGroups groups groupSet.hierarchy reported? =
      if areComparable (inOrder (placed groupSet.hierarchy groups)) then
        .ok (merge (inOrder (placed groupSet.hierarchy groups)) reported?)
      else
        .error .incomparableKeys := by
  have known :
      ∀ group ∈ groups,
        ∃ depth, groupSet.hierarchy.depth? group.id = some depth := by
    intro group member
    obtain ⟨depth, found, _⟩ :=
      GroupSet.exists_depth sound (members member)
    exact ⟨depth, found⟩
  unfold mergeGroups
  rw [place_eq_ok known]
  rfl

/-- Distinct groups of a sound hierarchy with text keys are merged at their places. -/
theorem mergeGroups_eq_ok
    (sound : groupSet.parents.Sound)
    (distinct : groups.Nodup)
    (members : groups ⊆ groupSet.groups)
    (textKeys : ∀ group ∈ groups, group.HasTextKeys)
    (reported? : Option String) :
    ∃ ordered,
      Lists groupSet groups ordered ∧
        mergeGroups groups groupSet.hierarchy reported? =
          .ok (merge ordered reported?) := by
  have lists := inOrder_placed_lists sound distinct members
  refine ⟨_, lists, ?_⟩
  rw [mergeGroups_of_sound sound members]
  exact if_pos (areComparable_of_hasTextKeys lists textKeys)

/-- Rearranged groups are merged to the same. -/
theorem mergeGroups_eq_of_perm
    (sound : groupSet.parents.Sound)
    (distinct : groups.Nodup)
    (members : groups ⊆ groupSet.groups)
    (textKeys : ∀ group ∈ groups, group.HasTextKeys)
    (reported? : Option String)
    {others : List Group}
    (permuted : groups.Perm others) :
    mergeGroups groups groupSet.hierarchy reported? =
      mergeGroups others groupSet.hierarchy reported? := by
  have back := permuted.symm.subset
  obtain ⟨ordered, lists, merged⟩ :=
    mergeGroups_eq_ok sound distinct members textKeys reported?
  obtain ⟨otherOrdered, otherLists, otherMerged⟩ :=
    mergeGroups_eq_ok sound (permuted.nodup_iff.mp distinct)
      (fun group member => members (back member))
      (fun group member => textKeys group (back member)) reported?
  have same : ordered = otherOrdered :=
    lists.eq_of_mem_iff otherLists (fun _ => permuted.mem_iff)
      fun _ _ => Iff.rfl
  rw [merged, otherMerged, same]

end Merging

section Levels

variable {ordered : List PlacedGroup} {scope : ConflictScope}

/-- What groups with comparable values propose can be written with sorted keys. -/
theorem isSortable_of_areComparable
    (comparable : areComparable ordered = true)
    {placed : PlacedGroup}
    (listed : placed ∈ ordered)
    {key : String}
    {value : Value}
    (proposes : placed.2.Proposes scope key value) :
    value.isSortable = true := by
  have sortable := List.all_eq_true.mp comparable placed listed
  rw [Bool.and_eq_true, List.all_eq_true, List.all_eq_true] at sortable
  cases proposes with
  | parameter set =>
      exact sortable.1 _ (Entries.mem_of_lookup set)
  | global set =>
      exact sortable.2 _ (Entries.mem_of_lookup set)
  | environment assigns named notEmpty =>
      rfl

theorem isSortable_of_mem_levels
    (scope : ConflictScope)
    (comparable : areComparable ordered = true)
    {level : String × ConflictScope × Nat × List Proposal}
    (member : level ∈ levels scope.payload scope ordered) :
    level.2.2.2.all (·.value.isSortable) = true := by
  obtain ⟨key, _, ofKey⟩ := List.mem_flatMap.mp member
  obtain ⟨depth, _, rfl⟩ := List.mem_map.mp ofKey
  rw [List.all_eq_true]
  intro proposal atDepth
  have made := (Proposal.mem_atDepth.mp atDepth).1
  obtain ⟨placed, listed, proposed⟩ := List.mem_filterMap.mp made
  obtain ⟨value, found, rfl⟩ := Option.map_eq_some_iff.mp proposed
  exact isSortable_of_areComparable comparable listed (proposes_iff.mpr found)

theorem filterMap_levels
    (payload : Group → Fields)
    (scope : ConflictScope)
    (ordered : List PlacedGroup) :
    (levels payload scope ordered).filterMap
        (fun (key, scope, depth, proposals) =>
          Proposal.conflict? key scope depth proposals) =
      conflicts payload scope ordered := by
  unfold levels conflicts Proposal.conflicts
  rw [List.filterMap_flatMap]
  simp only [List.filterMap_map]
  rfl

/-- Where nothing fails, all conflicts come before a failure. -/
theorem conflictsBeforeFailure_eq
    (comparable : areComparable ordered = true)
    (reported? : Option String) :
    conflictsBeforeFailure ordered = (merge ordered reported?).conflicts := by
  have reached :
      ∀ level ∈
          levels Group.parameters .parameters ordered ++
            levels Group.globals .globals ordered ++
            levels assignedEnvironment .environment ordered,
        level.2.2.2.all (·.value.isSortable) = true := by
    intro level member
    rw [List.append_assoc, List.mem_append, List.mem_append] at member
    rcases member with ofParameters | ofGlobals | ofEnvironment
    · exact isSortable_of_mem_levels .parameters comparable ofParameters
    · exact isSortable_of_mem_levels .globals comparable ofGlobals
    · exact isSortable_of_mem_levels .environment comparable ofEnvironment
  unfold conflictsBeforeFailure
  dsimp only
  rw [List.takeWhile_eq_self_iff.mpr reached, List.filterMap_append,
    List.filterMap_append]
  simp only [filterMap_levels]
  rfl

/-- A merge that succeeds comes upon the conflicts of its result. -/
theorem conflictsMet_eq
    {groups : List Group}
    {hierarchy : Hierarchy}
    {reported? : Option String}
    {merged : Merged}
    (merges : mergeGroups groups hierarchy reported? = .ok merged) :
    conflictsMet groups hierarchy = merged.conflicts := by
  unfold mergeGroups at merges
  unfold conflictsMet
  cases placed : place hierarchy groups with
  | error error =>
      rw [placed] at merges
      cases merges
  | ok found =>
      rw [placed] at merges
      dsimp only at merges ⊢
      split at merges
      case isTrue comparable =>
        cases merges
        exact conflictsBeforeFailure_eq comparable reported?
      case isFalse =>
        cases merges

end Levels

theorem mem_classes_merge
    {groupSet : GroupSet}
    {groups : List Group}
    {ordered : List PlacedGroup}
    (lists : Lists groupSet groups ordered)
    (grounded :
      ∀ group ∈ groups, groupSet.parents.Grounded group.id)
    (reported? : Option String)
    {name : String} :
    name ∈ (merge ordered reported?).classes ↔
      ∃ group ∈ groups, name ∈ group.classes := by
  unfold merge
  rw [Text.mem_distinctAscending, List.mem_flatMap]
  constructor
  · rintro ⟨⟨depth, group⟩, listed, named⟩
    exact ⟨group, ((lists.mem_iff depth group).mp listed).1, named⟩
  · rintro ⟨group, member, named⟩
    obtain ⟨depth, stands⟩ := grounded group member
    exact ⟨(depth, group),
      (lists.mem_iff depth group).mpr ⟨member, stands⟩, named⟩

section Proposals

variable {groupSet : GroupSet} {groups : List Group} {ordered : List PlacedGroup}
variable {scope : ConflictScope} {key : String}

/-- The proposals for a key are those of the groups, made at their depths. -/
theorem mem_proposals
    (lists : Lists groupSet groups ordered)
    {proposal : Proposal} :
    proposal ∈ proposals scope.payload ordered key ↔
      ∃ group ∈ groups,
        groupSet.parents.HasDepth group.id proposal.depth ∧
          group.id = proposal.group ∧
          group.Proposes scope key proposal.value := by
  unfold proposals
  rw [List.mem_filterMap]
  constructor
  · rintro ⟨⟨depth, group⟩, listed, made⟩
    obtain ⟨value, set, rfl⟩ := Option.map_eq_some_iff.mp made
    obtain ⟨member, stands⟩ := (lists.mem_iff depth group).mp listed
    exact ⟨group, member, stands, rfl, proposes_iff.mpr set⟩
  · rintro ⟨group, member, stands, sameId, proposes⟩
    refine ⟨(proposal.depth, group),
      (lists.mem_iff _ _).mpr ⟨member, stands⟩, ?_⟩
    simp [proposes_iff.mp proposes, sameId]

theorem proposals_inOrder
    (lists : Lists groupSet groups ordered) :
    Proposal.InOrder (proposals scope.payload ordered key) := by
  unfold proposals
  refine List.pairwise_filterMap.mpr (lists.inOrder.imp ?_)
  intro left right before leftProposal leftMade rightProposal rightMade
  obtain ⟨_, _, rfl⟩ := Option.map_eq_some_iff.mp leftMade
  obtain ⟨_, _, rfl⟩ := Option.map_eq_some_iff.mp rightMade
  exact before

theorem keys_strictlyAscending
    (payload : Group → Fields)
    (ordered : List PlacedGroup) :
    Text.StrictlyAscending (keys payload ordered) :=
  Text.distinctAscending_strictlyAscending _

theorem proposals_eq_nil_of_not_mem_keys
    {payload : Group → Fields}
    (absent : key ∉ keys payload ordered) :
    proposals payload ordered key = [] := by
  unfold proposals
  rw [List.filterMap_eq_nil_iff]
  rintro ⟨depth, group⟩ listed
  unfold keys at absent
  rw [Text.mem_distinctAscending, List.mem_flatMap] at absent
  have notSet : key ∉ (payload group).map Prod.fst :=
    fun set => absent ⟨(depth, group), listed, set⟩
  rw [← Fields.find?_isSome_iff, Option.not_isSome_iff_eq_none] at notSet
  simp [notSet]

/-- Looking a key up among chosen entries gives what was chosen for it. -/
private theorem lookup_filterMap_keys
    (choose : String → Option Value)
    (keys : List String) :
    List.lookup key
        (keys.filterMap fun other =>
          (choose other).map fun value => (other, value)) =
      if key ∈ keys then choose key else none := by
  induction keys with
  | nil =>
      rfl
  | cons first rest inductionHypothesis =>
      by_cases same : key = first
      · subst same
        cases chosen : choose key with
        | none =>
            simp [chosen, inductionHypothesis]
        | some value =>
            simp [chosen]
      · have stillMember : key ∈ first :: rest ↔ key ∈ rest := by
          simp [same]
        have different : (key == first) = false :=
          beq_eq_false_iff_ne.mpr same
        simp only [stillMember, ← inductionHypothesis]
        cases chosen : choose first with
        | none =>
            simp [chosen]
        | some value =>
            simp [chosen, List.lookup_cons, different]

/-- The merged value under a key is the one decided on among the proposals for it. -/
theorem find?_values
    (payload : Group → Fields)
    (ordered : List PlacedGroup)
    (key : String) :
    Fields.find? (values payload ordered) key =
      Proposal.decided? (proposals payload ordered key) := by
  unfold values Fields.find?
  rw [lookup_filterMap_keys]
  split
  case isTrue =>
    rfl
  case isFalse absent =>
    rw [proposals_eq_nil_of_not_mem_keys absent]
    rfl

theorem nodup_map_fst_values
    (payload : Group → Fields)
    (ordered : List PlacedGroup) :
    ((values payload ordered).map Prod.fst).Nodup := by
  have keysDistinct := (keys_strictlyAscending payload ordered).nodup
  have shape :
      (values payload ordered).map Prod.fst =
        (keys payload ordered).filter fun key =>
          (Proposal.decided? (proposals payload ordered key)).isSome := by
    unfold values
    rw [List.map_filterMap, ← List.filterMap_eq_filter]
    apply List.filterMap_congr
    intro key _
    cases decided :
        Proposal.decided? (proposals payload ordered key) <;>
      simp [Option.guard, decided]
  rw [shape]
  exact keysDistinct.filter _

end Proposals

end PlacedGroup

end FleetConfig
