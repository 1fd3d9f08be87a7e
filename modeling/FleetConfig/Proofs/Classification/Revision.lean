import FleetConfig.Proofs.Classification.PlacedGroups

/-!
# Revised groups

A merge goes by the depths and identifiers of groups and by what they set.  When
groups are revised under their identifiers, the revised groups are placed and put
in order like the groups; if they also set the same, they are merged to the same.
-/

namespace FleetConfig

/-- Groups set the same under one identifier, so that a merge cannot tell them apart. -/
structure Group.SetsLike
    (group other : Group) :
    Prop where
  id : group.id = other.id
  classes : group.classes = other.classes
  parameters : group.parameters = other.parameters
  globals : group.globals = other.globals
  environment? : group.environment? = other.environment?
  assignsEnvironment : group.assignsEnvironment = other.assignsEnvironment

namespace PlacedGroup

/-- A placed group is revised where it stands. -/
def revised
    (revise : Group → Group)
    (placed : PlacedGroup) :
    PlacedGroup :=
  (placed.1, revise placed.2)

variable {hierarchy other : Hierarchy}
  {groups : List Group}
  {ordered : List PlacedGroup}
  {revise : Group → Group}

theorem mem_of_place_eq_ok
    (isPlaced : place hierarchy groups = .ok ordered)
    {placed : PlacedGroup}
    (member : placed ∈ ordered) :
    placed.2 ∈ groups := by
  induction groups generalizing ordered with
  | nil =>
      cases isPlaced
      contradiction
  | cons group rest inductionHypothesis =>
      unfold place at isPlaced
      split at isPlaced
      case h_2 =>
        contradiction
      case h_1 depth _ =>
        cases restPlaced : place hierarchy rest with
        | error error =>
            rw [restPlaced] at isPlaced
            contradiction
        | ok others =>
            rw [restPlaced] at isPlaced
            cases isPlaced
            rcases List.mem_cons.mp member with rfl | inOthers
            · exact List.mem_cons_self
            · exact List.mem_cons_of_mem group
                (inductionHypothesis restPlaced inOthers)

/-- Revised groups are placed where the groups are. -/
theorem place_map
    (sameId : ∀ group ∈ groups, (revise group).id = group.id)
    (sameDepth :
      ∀ group ∈ groups,
        other.depth? group.id = hierarchy.depth? group.id) :
    place other (groups.map revise) =
      (place hierarchy groups).map (List.map (revised revise)) := by
  induction groups with
  | nil =>
      rfl
  | cons group rest inductionHypothesis =>
      have restPlaced :=
        inductionHypothesis
          (fun later member => sameId later (List.mem_cons_of_mem group member))
          (fun later member => sameDepth later (List.mem_cons_of_mem group member))
      rw [List.map_cons, place, place, restPlaced, sameId group List.mem_cons_self,
        sameDepth group List.mem_cons_self]
      cases hierarchy.depth? group.id with
      | none =>
          rfl
      | some depth =>
          cases place hierarchy rest <;> rfl

/-- Revised groups are put in the order of the groups. -/
theorem inOrder_map
    (sameId : ∀ placed ∈ ordered, (revise placed.2).id = placed.2.id) :
    inOrder (ordered.map (revised revise)) =
      (inOrder ordered).map (revised revise) := by
  unfold inOrder
  refine (List.map_mergeSort ?_).symm
  intro left leftListed right rightListed
  simp only [revised, sameId left leftListed, sameId right rightListed]
  rfl

/-- Revised groups propose for a key what the groups do if it has the same value in all. -/
theorem proposals_map
    {payload : Group → Fields}
    {key : String}
    (sameId : ∀ placed ∈ ordered, (revise placed.2).id = placed.2.id)
    (sameValue :
      ∀ placed ∈ ordered,
        Fields.find? (payload (revise placed.2)) key =
          Fields.find? (payload placed.2) key) :
    proposals payload (ordered.map (revised revise)) key =
      proposals payload ordered key := by
  unfold proposals
  rw [List.filterMap_map]
  apply List.filterMap_congr
  intro placed member
  simp only [Function.comp_apply, revised, sameValue placed member,
    sameId placed member]

/-- The keys are those that some group sets. -/
theorem mem_keys
    {payload : Group → Fields}
    {key : String} :
    key ∈ keys payload ordered ↔
      ∃ placed ∈ ordered, (Fields.find? (payload placed.2) key).isSome = true := by
  unfold keys
  rw [Text.mem_distinctAscending, List.mem_flatMap]
  simp only [Fields.find?_isSome_iff]

/-- The keys are the same if each is set by some group in both lists or in none. -/
theorem keys_congr
    {payload : Group → Fields}
    {others : List PlacedGroup}
    (same :
      ∀ key,
        (∃ placed ∈ others, (Fields.find? (payload placed.2) key).isSome = true) ↔
          ∃ placed ∈ ordered, (Fields.find? (payload placed.2) key).isSome = true) :
    keys payload others = keys payload ordered := by
  refine (keys_strictlyAscending payload others).eq_of_mem_iff
    (keys_strictlyAscending payload ordered) fun key => ?_
  rw [mem_keys, mem_keys, same]

/-- Some revised group sets a key if some group does, where it has the same value in all. -/
theorem exists_sets_map
    {payload : Group → Fields}
    {key : String}
    (sameValue :
      ∀ placed ∈ ordered,
        Fields.find? (payload (revise placed.2)) key =
          Fields.find? (payload placed.2) key) :
    (∃ placed ∈ ordered.map (revised revise),
        (Fields.find? (payload placed.2) key).isSome = true) ↔
      ∃ placed ∈ ordered, (Fields.find? (payload placed.2) key).isSome = true := by
  constructor
  · rintro ⟨_, listed, set⟩
    obtain ⟨placed, member, rfl⟩ := List.mem_map.mp listed
    exact ⟨placed, member, sameValue placed member ▸ set⟩
  · rintro ⟨placed, member, set⟩
    exact ⟨revised revise placed, List.mem_map_of_mem member,
      (sameValue placed member).symm ▸ set⟩

theorem payload_eq_of_setsLike
    {group other : Group}
    (setsLike : group.SetsLike other)
    (scope : ConflictScope) :
    scope.payload group = scope.payload other := by
  cases scope with
  | parameters =>
      exact setsLike.parameters
  | globals =>
      exact setsLike.globals
  | environment =>
      simp only [ConflictScope.payload, assignedEnvironment,
        setsLike.environment?, setsLike.assignsEnvironment]

section Congruence

variable {payload : Group → Fields}
  {others : List PlacedGroup}
  (sameKeys : keys payload others = keys payload ordered)

include sameKeys

/-- What is merged is told from the keys and from what is decided on for each. -/
theorem values_congr
    (sameDecided :
      ∀ key,
        Proposal.decided? (proposals payload others key) =
          Proposal.decided? (proposals payload ordered key)) :
    values payload others = values payload ordered := by
  unfold values
  simp only [sameKeys, sameDecided]

/-- The conflicts are told from the keys and from the proposals for each. -/
theorem conflicts_congr
    (sameProposals :
      ∀ key, proposals payload others key = proposals payload ordered key)
    (scope : ConflictScope) :
    conflicts payload scope others = conflicts payload scope ordered := by
  unfold conflicts
  simp only [sameKeys, sameProposals]

end Congruence

/-- Revised groups that set the same are merged to the same. -/
theorem merge_map
    (setLike : ∀ placed ∈ ordered, (revise placed.2).SetsLike placed.2)
    (reported? : Option String) :
    merge (ordered.map (revised revise)) reported? = merge ordered reported? := by
  have sameKeys :
      ∀ scope : ConflictScope,
        keys scope.payload (ordered.map (revised revise)) =
          keys scope.payload ordered :=
    fun scope => keys_congr fun key => exists_sets_map fun placed member => by
      rw [payload_eq_of_setsLike (setLike placed member) scope]
  have sameProposals :
      ∀ (scope : ConflictScope) (key : String),
        proposals scope.payload (ordered.map (revised revise)) key =
          proposals scope.payload ordered key :=
    fun scope key => proposals_map
      (fun placed member => (setLike placed member).id)
      fun placed member => by
        rw [payload_eq_of_setsLike (setLike placed member) scope]
  have sameClasses :
      (ordered.map (revised revise)).flatMap (fun placed => placed.2.classes) =
        ordered.flatMap fun placed => placed.2.classes := by
    rw [List.flatMap_map]
    exact List.flatMap_congr fun placed member => (setLike placed member).classes
  have sameValues :
      ∀ scope : ConflictScope,
        values scope.payload (ordered.map (revised revise)) =
          values scope.payload ordered :=
    fun scope => values_congr (sameKeys scope) fun key =>
      congrArg Proposal.decided? (sameProposals scope key)
  have sameConflicts :
      ∀ scope : ConflictScope,
        conflicts scope.payload scope (ordered.map (revised revise)) =
          conflicts scope.payload scope ordered :=
    fun scope => conflicts_congr (sameKeys scope) (sameProposals scope) scope
  have sameEnvironment :
      environment? (ordered.map (revised revise)) reported? =
        environment? ordered reported? := by
    unfold environment?
    rw [show proposals assignedEnvironment (ordered.map (revised revise))
        "environment" =
      proposals assignedEnvironment ordered "environment" from
        sameProposals .environment "environment"]
  unfold merge
  congr 1
  · exact congrArg Text.distinctAscending sameClasses
  · exact sameValues .parameters
  · exact sameValues .globals
  · exact congrArg₂ (· ++ ·)
      (congrArg₂ (· ++ ·) (sameConflicts .parameters) (sameConflicts .globals))
      (sameConflicts .environment)

theorem areComparable_map
    (setLike : ∀ placed ∈ ordered, (revise placed.2).SetsLike placed.2) :
    areComparable (ordered.map (revised revise)) = areComparable ordered := by
  unfold areComparable
  rw [List.all_map, Bool.eq_iff_iff, List.all_eq_true, List.all_eq_true]
  refine forall₂_congr fun placed member => ?_
  simp only [Function.comp_apply, revised, (setLike placed member).parameters,
    (setLike placed member).globals]

/-- Groups that are merged have been placed, and their values can be compared. -/
theorem mergeGroups_eq_ok_iff
    {reported? : Option String}
    {merged : Merged} :
    mergeGroups groups hierarchy reported? = .ok merged ↔
      ∃ ordered,
        place hierarchy groups = .ok ordered ∧
          areComparable (inOrder ordered) = true ∧
          merge (inOrder ordered) reported? = merged := by
  unfold mergeGroups
  cases place hierarchy groups with
  | error error =>
      simp
  | ok ordered =>
      cases comparable : areComparable (inOrder ordered) <;>
        simp [comparable, merge]

/-- Groups that set the same at the same depths are merged to the same. -/
theorem mergeGroups_map
    (setLike : ∀ group ∈ groups, (revise group).SetsLike group)
    (sameDepth :
      ∀ group ∈ groups,
        other.depth? group.id = hierarchy.depth? group.id)
    (reported? : Option String) :
    mergeGroups (groups.map revise) other reported? =
      mergeGroups groups hierarchy reported? := by
  have sameId : ∀ group ∈ groups, (revise group).id = group.id :=
    fun group member => (setLike group member).id
  unfold mergeGroups
  rw [place_map sameId sameDepth]
  cases isPlaced : place hierarchy groups with
  | error error =>
      rfl
  | ok ordered =>
      have members : ∀ placed ∈ ordered, placed.2 ∈ groups :=
        fun placed member => mem_of_place_eq_ok isPlaced member
      have setLikeInOrder :
          ∀ placed ∈ inOrder ordered, (revise placed.2).SetsLike placed.2 :=
        fun placed member =>
          setLike placed.2 (members placed (List.mem_mergeSort.mp member))
      have sameOrder :
          inOrder (ordered.map (revised revise)) =
            (inOrder ordered).map (revised revise) :=
        inOrder_map fun placed member => sameId placed.2 (members placed member)
      have sameMerge := merge_map setLikeInOrder reported?
      unfold merge at sameMerge
      dsimp only [Except.map]
      rw [sameOrder, areComparable_map setLikeInOrder, sameMerge]

end PlacedGroup

end FleetConfig
