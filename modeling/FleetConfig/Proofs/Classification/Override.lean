import FleetConfig.Proofs.Classification.Revision

/-!
# Ancestors that are overridden

A group stands deeper than its ancestors.  So where it sets a key in the merge of a
node's groups, none of its ancestors decides on that key, and an ancestor that drops
the key leaves everything that is merged as it is, up to the conflicts.
-/

namespace FleetConfig

/-- A group without a key in its parameters or global variables. -/
def Group.dropping
    (group : Group) :
    (scope : ConflictScope) → (key : String) → Group
  | .parameters, key =>
      { group with
        parameters := group.parameters.filter fun (other, _) => other != key }
  | .globals, key =>
      { group with
        globals := group.globals.filter fun (other, _) => other != key }
  | .environment, _ =>
      group

/-- A group drops a key if it has the identifier. -/
def Group.droppingIf
    (id : String)
    (scope : ConflictScope)
    (key : String)
    (group : Group) :
    Group :=
  if group.id = id then group.dropping scope key else group

/-- What groups set together agrees on everything but the conflicts. -/
structure Merged.AgreesButConflicts
    (merged other : Merged) :
    Prop where
  classes : merged.classes = other.classes
  parameters : merged.parameters = other.parameters
  globals : merged.globals = other.globals
  environment? : merged.environment? = other.environment?

theorem Fields.find?_filter_ne
    (fields : Fields)
    (key other : String) :
    Fields.find? (fields.filter fun (name, _) => name != key) other =
      if other = key then none else Fields.find? fields other := by
  unfold Fields.find?
  induction fields with
  | nil =>
      simp
  | cons entry rest inductionHypothesis =>
      obtain ⟨name, value⟩ := entry
      by_cases dropped : name = key
      · subst dropped
        rw [List.filter_cons_of_neg (by simp), inductionHypothesis]
        by_cases asked : other = name
        · rw [if_pos asked, if_pos asked]
        · rw [if_neg asked, if_neg asked, List.lookup_cons,
            beq_eq_false_iff_ne.mpr asked]
      · rw [List.filter_cons_of_pos (by simpa using dropped), List.lookup_cons,
          List.lookup_cons, inductionHypothesis]
        by_cases asked : other = name
        · have notKey : other ≠ key := asked ▸ dropped
          rw [if_neg notKey, if_neg notKey]
        · rw [beq_eq_false_iff_ne.mpr asked]

namespace Group

section Dropping

variable (id : String) (scope : ConflictScope) (key : String) (group : Group)

/-- A group that drops a key differs only in what it sets, and sets nothing new. -/
theorem exists_droppingIf :
    ∃ parameters globals,
      group.droppingIf id scope key = { group with parameters, globals } ∧
        parameters ⊆ group.parameters ∧
        globals ⊆ group.globals := by
  unfold droppingIf
  split
  case isTrue =>
    cases scope with
    | parameters =>
        exact ⟨_, _, rfl, List.filter_subset_self _, List.Subset.refl _⟩
    | globals =>
        exact ⟨_, _, rfl, List.Subset.refl _, List.filter_subset_self _⟩
    | environment =>
        exact ⟨_, _, rfl, List.Subset.refl _, List.Subset.refl _⟩
  case isFalse =>
    exact ⟨_, _, rfl, List.Subset.refl _, List.Subset.refl _⟩

@[simp] theorem id_droppingIf :
    (group.droppingIf id scope key).id = group.id := by
  obtain ⟨_, _, shape, _⟩ := group.exists_droppingIf id scope key
  rw [shape]

@[simp] theorem classes_droppingIf :
    (group.droppingIf id scope key).classes = group.classes := by
  obtain ⟨_, _, shape, _⟩ := group.exists_droppingIf id scope key
  rw [shape]

end Dropping

/-- A group that drops a key sets nothing under it and the same under all others. -/
theorem find?_payload_dropping
    (group : Group)
    {scope : ConflictScope}
    (isMap : scope ≠ .environment)
    (key : String)
    (otherScope : ConflictScope)
    (otherKey : String) :
    Fields.find? (otherScope.payload (group.dropping scope key)) otherKey =
      if otherScope = scope ∧ otherKey = key then
        none
      else
        Fields.find? (otherScope.payload group) otherKey := by
  cases scope with
  | parameters =>
      cases otherScope with
      | parameters =>
          simpa [ConflictScope.payload, dropping] using
            Fields.find?_filter_ne group.parameters key otherKey
      | globals =>
          simp [ConflictScope.payload, dropping]
      | environment =>
          simp [ConflictScope.payload, dropping, PlacedGroup.assignedEnvironment]
  | globals =>
      cases otherScope with
      | parameters =>
          simp [ConflictScope.payload, dropping]
      | globals =>
          simpa [ConflictScope.payload, dropping] using
            Fields.find?_filter_ne group.globals key otherKey
      | environment =>
          simp [ConflictScope.payload, dropping, PlacedGroup.assignedEnvironment]
  | environment =>
      contradiction

end Group

/--
Proposals that are left out change nothing that is decided on if each lies less deep
than one that stays.
-/
theorem Proposal.decided?_filter
    {proposals : List Proposal}
    (inOrder : InOrder proposals)
    {stays : Proposal → Bool}
    {deep : Proposal}
    (member : deep ∈ proposals)
    (deepStays : stays deep = true)
    (lessDeep :
      ∀ other ∈ proposals, stays other = false → other.depth < deep.depth) :
    decided? (proposals.filter stays) = decided? proposals := by
  obtain ⟨first, foremost, decided⟩ :=
    exists_foremost inOrder (List.ne_nil_of_mem member)
  have firstStays : stays first = true := by
    by_contra leaves
    have less :=
      lessDeep first foremost.member (Bool.eq_false_iff.mpr leaves)
    rcases foremost.outranks deep member with rfl | lower | ⟨same, _⟩
    · exact leaves deepStays
    · omega
    · omega
  have stillForemost : Foremost (proposals.filter stays) first :=
    ⟨List.mem_filter.mpr ⟨foremost.member, firstStays⟩,
      fun other listed => foremost.outranks other (List.mem_of_mem_filter listed)⟩
  rw [decided,
    decided?_eq_some_iff (inOrder.sublist List.filter_sublist)]
  exact ⟨first, stillForemost, rfl⟩

namespace PlacedGroup

section Dropping

variable {groupSet : GroupSet}
  {groups : List Group}
  {ordered : List PlacedGroup}
  {scope : ConflictScope}
  {key : String}
  {id : String}

/-- Elsewhere than under the key that one of them drops, groups set what they set. -/
theorem find?_payload_droppingIf
    (isMap : scope ≠ .environment)
    {otherScope : ConflictScope}
    {otherKey : String}
    (elsewhere : ¬ (otherScope = scope ∧ otherKey = key))
    (group : Group) :
    Fields.find? (otherScope.payload (group.droppingIf id scope key)) otherKey =
      Fields.find? (otherScope.payload group) otherKey := by
  unfold Group.droppingIf
  split
  case isTrue =>
    rw [group.find?_payload_dropping isMap, if_neg elsewhere]
  case isFalse =>
    rfl

/-- Under the key itself only the proposal of the group that drops it is gone. -/
theorem proposals_droppingIf
    (isMap : scope ≠ .environment)
    (ordered : List PlacedGroup) :
    proposals scope.payload
        (ordered.map (revised (Group.droppingIf id scope key))) key =
      (proposals scope.payload ordered key).filter (·.group != id) := by
  unfold proposals
  rw [List.filterMap_map, List.filter_filterMap]
  apply List.filterMap_congr
  rintro ⟨depth, group⟩ _
  by_cases same : group.id = id
  · have gone :
        Fields.find? (scope.payload (group.droppingIf id scope key)) key = none := by
      rw [Group.droppingIf, if_pos same, group.find?_payload_dropping isMap,
        if_pos ⟨rfl, rfl⟩]
    cases set : Fields.find? (scope.payload group) key <;>
      simp [revised, gone, set, same, Option.filter]
  · have kept : group.droppingIf id scope key = group := by
      rw [Group.droppingIf, if_neg same]
    cases set : Fields.find? (scope.payload group) key <;>
      simp [revised, kept, set, same, Option.filter]

section Overridden

variable (sound : groupSet.parents.Sound)
  (lists : Lists groupSet groups ordered)
  (isMap : scope ≠ .environment)
  {descendant : Group}
  (member : descendant ∈ groups)
  (above : groupSet.parents.HasAncestor descendant.id id)
  (sets : ∃ value, descendant.Proposes scope key value)

include sound lists isMap member above sets

/-- A group that drops a key under which a descendant sets a value decides on nothing. -/
theorem decided?_droppingIf
    (otherScope : ConflictScope)
    (otherKey : String) :
    Proposal.decided?
        (proposals otherScope.payload
          (ordered.map (revised (Group.droppingIf id scope key))) otherKey) =
      Proposal.decided? (proposals otherScope.payload ordered otherKey) := by
  by_cases here : otherScope = scope ∧ otherKey = key
  · obtain ⟨rfl, rfl⟩ := here
    obtain ⟨value, proposes⟩ := sets
    obtain ⟨depth, stands⟩ := sound.grounded descendant.id above.mem
    obtain ⟨height, less, standsAbove⟩ := stands.ancestor_lt sound.distinct above
    have listed :
        ⟨depth, descendant.id, value⟩ ∈
          proposals otherScope.payload ordered otherKey :=
      (mem_proposals lists).mpr ⟨descendant, member, stands, rfl, proposes⟩
    rw [proposals_droppingIf isMap]
    refine Proposal.decided?_filter (proposals_inOrder lists) listed
      (bne_iff_ne.mpr (sound.ne_of_hasAncestor above)) ?_
    intro other otherListed leaves
    obtain ⟨group, _, otherStands, sameId, _⟩ := (mem_proposals lists).mp otherListed
    have isAncestor : other.group = id := by
      simpa using leaves
    rw [sameId, isAncestor] at otherStands
    rw [otherStands.unique sound.distinct standsAbove]
    exact less
  · rw [proposals_map (fun placed _ => placed.2.id_droppingIf id scope key)
      fun placed _ => find?_payload_droppingIf isMap here placed.2]

theorem keys_droppingIf
    (otherScope : ConflictScope) :
    keys otherScope.payload
        (ordered.map (revised (Group.droppingIf id scope key))) =
      keys otherScope.payload ordered := by
  apply keys_congr
  intro otherKey
  by_cases here : otherScope = scope ∧ otherKey = key
  · obtain ⟨rfl, rfl⟩ := here
    obtain ⟨value, proposes⟩ := sets
    obtain ⟨depth, stands⟩ := sound.grounded descendant.id above.mem
    have listed : (depth, descendant) ∈ ordered :=
      (lists.mem_iff depth descendant).mpr ⟨member, stands⟩
    have kept : descendant.droppingIf id otherScope otherKey = descendant :=
      if_neg (sound.ne_of_hasAncestor above)
    have set :
        (Fields.find? (otherScope.payload descendant) otherKey).isSome = true := by
      rw [proposes_iff.mp proposes]
      rfl
    have listedRevised := List.mem_map_of_mem
      (f := revised (Group.droppingIf id otherScope otherKey)) listed
    rw [revised, kept] at listedRevised
    exact iff_of_true ⟨_, listedRevised, set⟩ ⟨_, listed, set⟩
  · exact exists_sets_map fun placed _ =>
      find?_payload_droppingIf isMap here placed.2

/-- What the groups set together is the same without the key, up to the conflicts. -/
theorem merge_droppingIf
    (reported? : Option String) :
    (merge ordered reported?).AgreesButConflicts
      (merge (ordered.map (revised (Group.droppingIf id scope key))) reported?) := by
  have sameDecided :=
    decided?_droppingIf sound lists isMap member above sets
  have sameKeys := keys_droppingIf sound lists isMap member above sets
  have sameValues :
      ∀ otherScope : ConflictScope,
        values otherScope.payload ordered =
          values otherScope.payload
            (ordered.map (revised (Group.droppingIf id scope key))) :=
    fun otherScope =>
      (values_congr (sameKeys otherScope) (sameDecided otherScope)).symm
  have sameEnvironment := sameDecided .environment "environment"
  constructor
  case classes =>
    simp only [merge, List.flatMap_map, revised, Group.classes_droppingIf]
  case parameters =>
    exact sameValues .parameters
  case globals =>
    exact sameValues .globals
  case environment? =>
    simp only [ConflictScope.payload] at sameEnvironment
    simp only [merge, environment?, sameEnvironment]

end Overridden

theorem areComparable_droppingIf
    (comparable : areComparable ordered = true) :
    areComparable (ordered.map (revised (Group.droppingIf id scope key))) = true := by
  unfold areComparable at comparable ⊢
  rw [List.all_map]
  rw [List.all_eq_true] at comparable ⊢
  intro placed member
  have sortable := comparable placed member
  simp only [Bool.and_eq_true, List.all_eq_true] at sortable
  simp only [Function.comp_apply, revised, Bool.and_eq_true, List.all_eq_true]
  obtain ⟨_, _, shape, parameters, globals⟩ :=
    placed.2.exists_droppingIf id scope key
  rw [shape]
  exact ⟨fun entry listed => sortable.1 entry (parameters listed),
    fun entry listed => sortable.2 entry (globals listed)⟩

end Dropping

/--
A group that drops a key under which a descendant sets a value leaves the merge of
groups, if there is one, as it is, up to the conflicts.
-/
theorem mergeGroups_droppingIf
    {groupSet : GroupSet}
    {groups : List Group}
    (sound : groupSet.parents.Sound)
    (distinct : groups.Nodup)
    (members : groups ⊆ groupSet.groups)
    {scope : ConflictScope}
    (isMap : scope ≠ .environment)
    {key id : String}
    {descendant : Group}
    (member : descendant ∈ groups)
    (above : groupSet.parents.HasAncestor descendant.id id)
    (sets : ∃ value, descendant.Proposes scope key value)
    {other : Hierarchy}
    (sameDepth : ∀ id, other.depth? id = groupSet.hierarchy.depth? id)
    {reported? : Option String}
    {merged : Merged}
    (isMerged : mergeGroups groups groupSet.hierarchy reported? = .ok merged) :
    ∃ otherMerged,
      mergeGroups (groups.map (Group.droppingIf id scope key)) other reported? =
          .ok otherMerged ∧
        merged.AgreesButConflicts otherMerged := by
  obtain ⟨ordered, isPlaced, comparable, rfl⟩ := mergeGroups_eq_ok_iff.mp isMerged
  have known :
      ∀ group ∈ groups,
        ∃ depth, groupSet.hierarchy.depth? group.id = some depth := by
    intro group listed
    obtain ⟨depth, found, _⟩ := GroupSet.exists_depth sound (members listed)
    exact ⟨depth, found⟩
  have lists : Lists groupSet groups (inOrder ordered) := by
    cases isPlaced.symm.trans (place_eq_ok known)
    exact inOrder_placed_lists sound distinct members
  have sameId :
      ∀ group : Group, (group.droppingIf id scope key).id = group.id :=
    fun group => group.id_droppingIf id scope key
  refine ⟨_, mergeGroups_eq_ok_iff.mpr
      ⟨ordered.map (revised (Group.droppingIf id scope key)), ?_, ?_, rfl⟩, ?_⟩
  · rw [place_map (fun group _ => sameId group) fun group _ => sameDepth group.id,
      isPlaced]
    rfl
  · rw [inOrder_map fun placed _ => sameId placed.2]
    exact areComparable_droppingIf comparable
  · rw [inOrder_map fun placed _ => sameId placed.2]
    exact merge_droppingIf sound lists isMap member above sets reported?

end PlacedGroup

end FleetConfig
