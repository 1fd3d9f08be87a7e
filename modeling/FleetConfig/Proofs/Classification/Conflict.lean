import FleetConfig.Proofs.Classification.Precedence

/-!
# Conflicts between groups

Every disagreement is reported: for each scope, key and depth at which two
groups propose values with different canonical texts there is exactly one
conflict, also where a deeper group decides, and there is no other.  A conflict
records all groups that propose a value there, not only those that disagree.
-/

namespace FleetConfig

namespace ConflictScope

/-- The position of a scope in a list of conflicts. -/
def rank : ConflictScope → Nat
  | .parameters =>
      0
  | .globals =>
      1
  | .environment =>
      2

end ConflictScope

/-- A conflict stands before another: by scope, then by key, then by depth. -/
def Conflict.Before (left right : Conflict) : Prop :=
  left.scope.rank < right.scope.rank ∨
    left.scope = right.scope ∧
      (left.key < right.key ∨
        left.key = right.key ∧ left.depth < right.depth)

/-- Two conflicts are about the same scope, key and depth. -/
def Conflict.SamePlace (left right : Conflict) : Prop :=
  left.scope = right.scope ∧
    left.key = right.key ∧
    left.depth = right.depth

theorem Conflict.Before.not_samePlace
    {left right : Conflict}
    (before : Conflict.Before left right) :
    ¬ Conflict.SamePlace left right := by
  rintro ⟨sameScope, sameKey, sameDepth⟩
  rcases before with lower | ⟨_, less | ⟨_, deeper⟩⟩
  · rw [sameScope] at lower
    exact Nat.lt_irrefl _ lower
  · rw [sameKey] at less
    exact String.lt_irrefl _ less
  · rw [sameDepth] at deeper
    exact Nat.lt_irrefl _ deeper

/-- Among conflicts in order there is only one for each scope, key and depth. -/
theorem Conflict.eq_of_samePlace
    {conflicts : List Conflict}
    (ordered : conflicts.Pairwise Conflict.Before)
    {left right : Conflict}
    (leftReported : left ∈ conflicts)
    (rightReported : right ∈ conflicts)
    (samePlace : Conflict.SamePlace left right) :
    left = right := by
  have forwards :
      conflicts.Pairwise fun left right =>
        Conflict.SamePlace left right → left = right :=
    ordered.imp fun before same => absurd same before.not_samePlace
  have backwards :
      conflicts.Pairwise fun right left =>
        Conflict.SamePlace left right → left = right := by
    refine ordered.imp ?_
    rintro right left before ⟨sameScope, sameKey, sameDepth⟩
    exact absurd ⟨sameScope.symm, sameKey.symm, sameDepth.symm⟩
      before.not_samePlace
  exact List.Pairwise.forall_of_forall_of_flip
    (fun _ _ _ => rfl) forwards backwards
    leftReported rightReported samePlace

/-- The merged value under a key of a scope. -/
def Merged.value?
    (merged : Merged)
    (scope : ConflictScope)
    (key : String) :
    Option Value :=
  match scope with
  | .parameters =>
      Fields.find? merged.parameters key
  | .globals =>
      Fields.find? merged.globals key
  | .environment =>
      if key = "environment" then
        merged.environment?.map Value.text
      else
        none

namespace GroupSet

/-- Two groups at one depth propose values for a key whose canonical texts differ. -/
def Disputed
    (groupSet : GroupSet)
    (groups : List Group)
    (scope : ConflictScope)
    (key : String)
    (depth : Nat) :
    Prop :=
  ∃ left ∈ groups, ∃ right ∈ groups,
    groupSet.parents.HasDepth left.id depth ∧
      groupSet.parents.HasDepth right.id depth ∧
      ∃ leftValue rightValue,
        left.Proposes scope key leftValue ∧
          right.Proposes scope key rightValue ∧
          leftValue.canonicalJson ≠ rightValue.canonicalJson

/--
A conflict records all groups that propose a value at its depth, each with its
own value.
-/
structure Records
    (groupSet : GroupSet)
    (groups : List Group)
    (conflict : Conflict) :
    Prop where
  groupIds :
    ∀ id,
      id ∈ conflict.groupIds ↔
        ∃ group ∈ groups,
          group.id = id ∧
            groupSet.parents.HasDepth id conflict.depth ∧
            ∃ value, group.Proposes conflict.scope conflict.key value
  ascending : Text.StrictlyAscending conflict.groupIds
  keys : conflict.values.map Prod.fst = conflict.groupIds
  values :
    ∀ id value,
      Fields.find? conflict.values id = some value ↔
        ∃ group ∈ groups,
          group.id = id ∧
            groupSet.parents.HasDepth id conflict.depth ∧
            group.Proposes conflict.scope conflict.key value
  chosen :
    ∃ least,
      conflict.groupIds.head? = some least ∧
        Fields.find? conflict.values least = some conflict.chosen

/-- No group proposes a value for a key any deeper. -/
def DeepestAt
    (groupSet : GroupSet)
    (groups : List Group)
    (scope : ConflictScope)
    (key : String)
    (depth : Nat) :
    Prop :=
  ∀ group ∈ groups, ∀ value otherDepth,
    group.Proposes scope key value →
    groupSet.parents.HasDepth group.id otherDepth →
    otherDepth ≤ depth

/--
The conflicts of a merge report every disagreement once, in order, and nothing
else.
-/
structure ReportsConflicts
    (groupSet : GroupSet)
    (groups : List Group)
    (merged : Merged) :
    Prop where
  ordered : merged.conflicts.Pairwise Conflict.Before
  sound :
    ∀ conflict ∈ merged.conflicts,
      groupSet.Disputed groups conflict.scope conflict.key conflict.depth
  complete :
    ∀ scope key depth,
      groupSet.Disputed groups scope key depth →
      ∃! conflict,
        conflict ∈ merged.conflicts ∧
          conflict.scope = scope ∧
          conflict.key = key ∧
          conflict.depth = depth
  recorded :
    ∀ conflict ∈ merged.conflicts, groupSet.Records groups conflict
  agreed :
    ∀ scope key depth,
      groupSet.DeepestAt groups scope key depth →
      (∀ conflict ∈ merged.conflicts,
        ¬ (conflict.scope = scope ∧
          conflict.key = key ∧
          conflict.depth = depth)) →
      ∀ group ∈ groups, ∀ value,
        groupSet.parents.HasDepth group.id depth →
        group.Proposes scope key value →
        ∃ decided,
          merged.value? scope key = some decided ∧
            decided.canonicalJson = value.canonicalJson

end GroupSet

namespace Proposal

/-- A conflict describes the proposals made at its depth. -/
structure Describes
    (proposals : List Proposal)
    (conflict : Conflict) :
    Prop where
  disagree : disagree (atDepth conflict.depth proposals) = true
  groupIds :
    conflict.groupIds =
      (atDepth conflict.depth proposals).map (·.group)
  values :
    conflict.values =
      (atDepth conflict.depth proposals).map fun proposal =>
        (proposal.group, proposal.value)
  chosen :
    ∃ first,
      (atDepth conflict.depth proposals).head? = some first ∧
        first.value = conflict.chosen

theorem atDepth_strictlyAscending
    {proposals : List Proposal}
    (inOrder : InOrder proposals)
    (depth : Nat) :
    Text.StrictlyAscending
      ((atDepth depth proposals).map (·.group)) := by
  have orderedHere : InOrder (atDepth depth proposals) :=
    inOrder.sublist List.filter_sublist
  refine List.pairwise_map.mpr (orderedHere.imp_of_mem ?_)
  intro left right leftHere rightHere before
  have leftDepth := (mem_atDepth.mp leftHere).2
  have rightDepth := (mem_atDepth.mp rightHere).2
  rcases before with deeper | ⟨_, less⟩
  · have deeper : left.depth < right.depth := deeper
    omega
  · exact less

/-- A conflict at a depth describes the proposals there. -/
theorem describes_of_conflict?
    {proposals : List Proposal}
    (inOrder : InOrder proposals)
    {key : String}
    {scope : ConflictScope}
    {depth : Nat}
    {conflict : Conflict}
    (found :
      conflict? key scope depth (atDepth depth proposals) =
        some conflict) :
    conflict.scope = scope ∧
      conflict.key = key ∧
      conflict.depth = depth ∧
      Describes proposals conflict := by
  unfold conflict? at found
  split at found
  case isTrue differ =>
    obtain ⟨first, isFirst, rfl⟩ := Option.map_eq_some_iff.mp found
    refine ⟨rfl, rfl, rfl, differ, rfl, ?_, first, isFirst, rfl⟩
    apply Fields.overlay_nil
    simpa [Function.comp_def] using
      (atDepth_strictlyAscending inOrder depth).nodup
  case isFalse =>
    contradiction

/-- The conflicts for a key describe the proposals for it. -/
theorem describes_of_mem_conflicts
    {proposals : List Proposal}
    (inOrder : InOrder proposals)
    {key : String}
    {scope : ConflictScope}
    {conflict : Conflict}
    (reported : conflict ∈ conflicts key scope proposals) :
    conflict.scope = scope ∧
      conflict.key = key ∧
      Describes proposals conflict := by
  obtain ⟨depth, _, found⟩ := List.mem_filterMap.mp reported
  obtain ⟨sameScope, sameKey, _, describes⟩ :=
    describes_of_conflict? inOrder found
  exact ⟨sameScope, sameKey, describes⟩

/-- Where proposals made at one depth disagree, a conflict is reported. -/
theorem exists_mem_conflicts
    {proposals : List Proposal}
    (inOrder : InOrder proposals)
    {depth : Nat}
    (differ : disagree (atDepth depth proposals) = true)
    (key : String)
    (scope : ConflictScope) :
    ∃ conflict ∈ conflicts key scope proposals,
      conflict.depth = depth := by
  cases shape : atDepth depth proposals with
  | nil =>
      rw [shape] at differ
      contradiction
  | cons first rest =>
      have firstHere : first ∈ atDepth depth proposals := by
        rw [shape]
        exact List.mem_cons_self
      have listed := mem_atDepth.mp firstHere
      have found :
          ∃ conflict,
            conflict? key scope depth (atDepth depth proposals) =
              some conflict := by
        unfold conflict?
        rw [if_pos differ, shape]
        exact ⟨_, rfl⟩
      obtain ⟨conflict, found⟩ := found
      exact ⟨conflict,
        List.mem_filterMap.mpr
          ⟨depth, mem_depths.mpr ⟨first, listed⟩, found⟩,
        (describes_of_conflict? inOrder found).2.2.1⟩

theorem conflicts_pairwise
    {proposals : List Proposal}
    (inOrder : InOrder proposals)
    (key : String)
    (scope : ConflictScope) :
    (conflicts key scope proposals).Pairwise Conflict.Before := by
  unfold conflicts
  refine List.pairwise_filterMap.mpr ((depths_pairwise inOrder).imp ?_)
  intro leftDepth rightDepth deeper left leftFound right rightFound
  obtain ⟨leftScope, leftKey, rfl, _⟩ :=
    describes_of_conflict? inOrder leftFound
  obtain ⟨rightScope, rightKey, rfl, _⟩ :=
    describes_of_conflict? inOrder rightFound
  exact Or.inr
    ⟨leftScope.trans rightScope.symm,
      Or.inr ⟨leftKey.trans rightKey.symm, deeper⟩⟩

end Proposal

namespace PlacedGroup

section Reporting

variable {groupSet : GroupSet} {groups : List Group} {ordered : List PlacedGroup}

theorem exists_proposal_iff
    (lists : Lists groupSet groups ordered)
    {scope : ConflictScope}
    {key id : String}
    {depth : Nat}
    {value : Value} :
    (∃ proposal ∈
        Proposal.atDepth depth (proposals scope.payload ordered key),
      proposal.group = id ∧ proposal.value = value) ↔
      ∃ group ∈ groups,
        group.id = id ∧
          groupSet.parents.HasDepth id depth ∧
          group.Proposes scope key value := by
  constructor
  · rintro ⟨proposal, here, rfl, rfl⟩
    obtain ⟨listed, rfl⟩ := Proposal.mem_atDepth.mp here
    obtain ⟨group, member, stands, sameId, proposes⟩ :=
      (mem_proposals lists).mp listed
    exact ⟨group, member, sameId, sameId ▸ stands, proposes⟩
  · rintro ⟨group, member, rfl, stands, proposes⟩
    refine ⟨⟨depth, group.id, value⟩,
      Proposal.mem_atDepth.mpr ⟨?_, rfl⟩, rfl, rfl⟩
    exact (mem_proposals lists).mpr
      ⟨group, member, stands, rfl, proposes⟩

/-- Groups dispute a key at a depth exactly when the proposals made there disagree. -/
theorem disputed_iff
    (lists : Lists groupSet groups ordered)
    {scope : ConflictScope}
    {key : String}
    {depth : Nat} :
    groupSet.Disputed groups scope key depth ↔
      Proposal.disagree
        (Proposal.atDepth depth
          (proposals scope.payload ordered key)) = true := by
  rw [Proposal.disagree_iff]
  constructor
  · rintro ⟨left, leftMember, right, rightMember, leftStands, rightStands,
      leftValue, rightValue, leftProposes, rightProposes, different⟩
    obtain ⟨leftProposal, leftHere, _, rfl⟩ :=
      (exists_proposal_iff lists).mpr
        ⟨left, leftMember, rfl, leftStands, leftProposes⟩
    obtain ⟨rightProposal, rightHere, _, rfl⟩ :=
      (exists_proposal_iff lists).mpr
        ⟨right, rightMember, rfl, rightStands, rightProposes⟩
    exact ⟨leftProposal, leftHere, rightProposal, rightHere, different⟩
  · rintro ⟨leftProposal, leftHere, rightProposal, rightHere, different⟩
    obtain ⟨left, leftMember, leftId, leftStands, leftProposes⟩ :=
      (exists_proposal_iff lists).mp ⟨leftProposal, leftHere, rfl, rfl⟩
    obtain ⟨right, rightMember, rightId, rightStands, rightProposes⟩ :=
      (exists_proposal_iff lists).mp ⟨rightProposal, rightHere, rfl, rfl⟩
    exact ⟨left, leftMember, right, rightMember,
      leftId ▸ leftStands, rightId ▸ rightStands,
      leftProposal.value, rightProposal.value,
      leftProposes, rightProposes, different⟩

/-- A conflict that describes the proposals records the groups. -/
theorem records_of_describes
    (lists : Lists groupSet groups ordered)
    {conflict : Conflict}
    (describes :
      Proposal.Describes
        (proposals conflict.scope.payload ordered conflict.key)
        conflict) :
    groupSet.Records groups conflict := by
  have inOrder :
      Proposal.InOrder
        (proposals conflict.scope.payload ordered conflict.key) :=
    proposals_inOrder lists
  have ascending :=
    Proposal.atDepth_strictlyAscending inOrder conflict.depth
  rw [← describes.groupIds] at ascending
  have keys : conflict.values.map Prod.fst = conflict.groupIds := by
    rw [describes.values, describes.groupIds, List.map_map]
    rfl
  have values :
      ∀ id value,
        Fields.find? conflict.values id = some value ↔
          ∃ group ∈ groups,
            group.id = id ∧
              groupSet.parents.HasDepth id conflict.depth ∧
              group.Proposes conflict.scope conflict.key value := by
    intro id value
    unfold Fields.find?
    rw [Entries.lookup_eq_some_iff_mem (keys ▸ ascending.nodup),
      ← exists_proposal_iff lists, describes.values]
    simp
  refine ⟨?_, ascending, keys, values, ?_⟩
  · intro id
    rw [← keys, ← Fields.find?_isSome_iff, Option.isSome_iff_exists]
    simp only [values]
    constructor
    · rintro ⟨value, group, member, sameId, stands, proposes⟩
      exact ⟨group, member, sameId, stands, value, proposes⟩
    · rintro ⟨group, member, sameId, stands, value, proposes⟩
      exact ⟨value, group, member, sameId, stands, proposes⟩
  · obtain ⟨first, isFirst, itsValue⟩ := describes.chosen
    refine ⟨first.group, by simp [describes.groupIds, isFirst], ?_⟩
    rw [values, ← exists_proposal_iff lists]
    exact ⟨first, List.mem_of_mem_head? isFirst, rfl, itsValue⟩

theorem mem_conflicts
    (lists : Lists groupSet groups ordered)
    (scope : ConflictScope)
    {conflict : Conflict} :
    conflict ∈ conflicts scope.payload scope ordered ↔
      conflict.scope = scope ∧
        conflict ∈
          Proposal.conflicts conflict.key scope
            (proposals scope.payload ordered conflict.key) := by
  unfold conflicts
  rw [List.mem_flatMap]
  constructor
  · rintro ⟨key, _, reported⟩
    obtain ⟨sameScope, rfl, _⟩ :=
      Proposal.describes_of_mem_conflicts (proposals_inOrder lists) reported
    exact ⟨sameScope, reported⟩
  · rintro ⟨_, reported⟩
    refine ⟨conflict.key, ?_, reported⟩
    by_cases listed : conflict.key ∈ keys scope.payload ordered
    · exact listed
    · rw [proposals_eq_nil_of_not_mem_keys listed] at reported
      simp [Proposal.conflicts, Proposal.depths] at reported

theorem conflicts_pairwise
    (lists : Lists groupSet groups ordered)
    (scope : ConflictScope) :
    (conflicts scope.payload scope ordered).Pairwise Conflict.Before := by
  unfold conflicts
  refine List.pairwise_flatMap.mpr ⟨?_, ?_⟩
  · intro key _
    exact Proposal.conflicts_pairwise (proposals_inOrder lists) key scope
  · refine (keys_strictlyAscending scope.payload ordered).imp ?_
    intro leftKey rightKey less left leftReported right rightReported
    obtain ⟨leftScope, rfl, _⟩ :=
      Proposal.describes_of_mem_conflicts
        (proposals_inOrder lists) leftReported
    obtain ⟨rightScope, rfl, _⟩ :=
      Proposal.describes_of_mem_conflicts
        (proposals_inOrder lists) rightReported
    exact Or.inr ⟨leftScope.trans rightScope.symm, Or.inl less⟩

theorem mem_conflicts_merge
    (lists : Lists groupSet groups ordered)
    {reported? : Option String}
    {conflict : Conflict} :
    conflict ∈ (merge ordered reported?).conflicts ↔
      conflict ∈
        Proposal.conflicts conflict.key conflict.scope
          (proposals conflict.scope.payload ordered conflict.key) := by
  have parts :
      conflict ∈ (merge ordered reported?).conflicts ↔
        ∃ scope : ConflictScope,
          conflict ∈ conflicts scope.payload scope ordered := by
    simp only [merge, List.mem_append]
    constructor
    · rintro ((parameter | global) | environment)
      · exact ⟨.parameters, parameter⟩
      · exact ⟨.globals, global⟩
      · exact ⟨.environment, environment⟩
    · rintro ⟨scope, reported⟩
      cases scope with
      | parameters =>
          exact Or.inl (Or.inl reported)
      | globals =>
          exact Or.inl (Or.inr reported)
      | environment =>
          exact Or.inr reported
  rw [parts]
  simp only [mem_conflicts lists]
  constructor
  · rintro ⟨_, rfl, reported⟩
    exact reported
  · intro reported
    exact ⟨conflict.scope, rfl, reported⟩

/-- The conflicts of a merge come by scope, then by key, then by depth. -/
theorem conflicts_merge_pairwise
    (lists : Lists groupSet groups ordered)
    (reported? : Option String) :
    (merge ordered reported?).conflicts.Pairwise Conflict.Before := by
  have apart :
      ∀ leftScope rightScope : ConflictScope,
        leftScope.rank < rightScope.rank →
        ∀ left ∈ conflicts leftScope.payload leftScope ordered,
        ∀ right ∈ conflicts rightScope.payload rightScope ordered,
          Conflict.Before left right := by
    intro leftScope rightScope less left leftReported right rightReported
    left
    rw [((mem_conflicts lists leftScope).mp leftReported).1,
      ((mem_conflicts lists rightScope).mp rightReported).1]
    exact less
  refine List.pairwise_append.mpr
    ⟨List.pairwise_append.mpr ⟨?_, ?_, ?_⟩, ?_, ?_⟩
  · exact conflicts_pairwise lists .parameters
  · exact conflicts_pairwise lists .globals
  · exact apart .parameters .globals (by decide)
  · exact conflicts_pairwise lists .environment
  · intro left leftReported right rightReported
    rcases List.mem_append.mp leftReported with parameter | global
    · exact apart .parameters .environment (by decide)
        left parameter right rightReported
    · exact apart .globals .environment (by decide)
        left global right rightReported

theorem value?_merge_of_decided
    (sound : groupSet.parents.Sound)
    (members : groups ⊆ groupSet.groups)
    (lists : Lists groupSet groups ordered)
    (reported? : Option String)
    {scope : ConflictScope}
    {key : String}
    {value : Value}
    (decided :
      Proposal.decided? (proposals scope.payload ordered key) =
        some value) :
    (merge ordered reported?).value? scope key = some value := by
  cases scope with
  | parameters =>
      exact (find?_values _ _ _).trans decided
  | globals =>
      exact (find?_values _ _ _).trans decided
  | environment =>
      obtain ⟨group, _, proposes⟩ :=
        (decided?_proposals_eq_some_iff sound members lists).mp decided
      cases proposes with
      | environment =>
          simp [Merged.value?, merge, environment?_of_decided decided]

/--
Where the deepest depth is undisputed, all groups there agree with the merged
value.
-/
theorem agreed_of_undisputed
    (lists : Lists groupSet groups ordered)
    {scope : ConflictScope}
    {key : String}
    {depth : Nat}
    (deepest : groupSet.DeepestAt groups scope key depth)
    (undisputed : ¬ groupSet.Disputed groups scope key depth)
    {group : Group}
    (member : group ∈ groups)
    {value : Value}
    (stands : groupSet.parents.HasDepth group.id depth)
    (proposes : group.Proposes scope key value) :
    ∃ decided,
      Proposal.decided? (proposals scope.payload ordered key) =
          some decided ∧
        decided.canonicalJson = value.canonicalJson := by
  have listed :
      Proposal.mk depth group.id value ∈
        proposals scope.payload ordered key :=
    (mem_proposals lists).mpr ⟨group, member, stands, rfl, proposes⟩
  obtain ⟨foremost, isForemost, decided⟩ :=
    Proposal.exists_foremost (proposals_inOrder lists)
      (List.ne_nil_of_mem listed)
  refine ⟨foremost.value, decided, ?_⟩
  obtain ⟨other, otherMember, otherStands, _, otherProposes⟩ :=
    (mem_proposals lists).mp isForemost.member
  have atMost :=
    deepest other otherMember _ _ otherProposes otherStands
  have sameDepth : foremost.depth = depth := by
    rcases isForemost.outranks _ listed with
        isGroup | higher | ⟨same, _⟩
    · exact congrArg Proposal.depth isGroup.symm
    · exact Nat.le_antisymm atMost (Nat.le_of_lt higher)
    · exact same.symm
  -- The foremost group stands beside this one, so a difference would be a dispute.
  by_cases same : foremost.value.canonicalJson = value.canonicalJson
  · exact same
  · exact absurd
      ⟨other, otherMember, group, member, sameDepth ▸ otherStands, stands,
        foremost.value, value, otherProposes, proposes, same⟩
      undisputed

/-- Every conflict of a merge describes the proposals made at its place. -/
theorem describes_of_mem_merge
    (lists : Lists groupSet groups ordered)
    {reported? : Option String}
    {conflict : Conflict}
    (reported : conflict ∈ (merge ordered reported?).conflicts) :
    Proposal.Describes
      (proposals conflict.scope.payload ordered conflict.key) conflict :=
  (Proposal.describes_of_mem_conflicts (proposals_inOrder lists)
    ((mem_conflicts_merge lists).mp reported)).2.2

/-- Every dispute is reported by a conflict. -/
theorem exists_mem_merge_of_disputed
    (lists : Lists groupSet groups ordered)
    (reported? : Option String)
    {scope : ConflictScope}
    {key : String}
    {depth : Nat}
    (disputed : groupSet.Disputed groups scope key depth) :
    ∃ conflict ∈ (merge ordered reported?).conflicts,
      conflict.scope = scope ∧
        conflict.key = key ∧
        conflict.depth = depth := by
  obtain ⟨conflict, reported, sameDepth⟩ :=
    Proposal.exists_mem_conflicts
      (proposals_inOrder lists) ((disputed_iff lists).mp disputed)
      key scope
  obtain ⟨rfl, rfl, _⟩ :=
    Proposal.describes_of_mem_conflicts
      (proposals_inOrder lists) reported
  exact ⟨conflict, (mem_conflicts_merge lists).mpr reported,
    rfl, rfl, sameDepth⟩

/-- The conflicts of a merge report every disagreement. -/
theorem merge_reportsConflicts
    (sound : groupSet.parents.Sound)
    (members : groups ⊆ groupSet.groups)
    (lists : Lists groupSet groups ordered)
    (reported? : Option String) :
    groupSet.ReportsConflicts groups (merge ordered reported?) := by
  have inOrder := conflicts_merge_pairwise lists reported?
  refine ⟨inOrder, ?_, ?_, ?_, ?_⟩
  · intro conflict reported
    exact (disputed_iff lists).mpr
      (describes_of_mem_merge lists reported).disagree
  · intro scope key depth disputed
    obtain ⟨conflict, reported, place⟩ :=
      exists_mem_merge_of_disputed lists reported? disputed
    refine ⟨conflict, ⟨reported, place⟩, ?_⟩
    rintro other ⟨otherReported, otherPlace⟩
    exact Conflict.eq_of_samePlace inOrder otherReported reported
      ⟨otherPlace.1.trans place.1.symm,
        otherPlace.2.1.trans place.2.1.symm,
        otherPlace.2.2.trans place.2.2.symm⟩
  · intro conflict reported
    exact records_of_describes lists
      (describes_of_mem_merge lists reported)
  · intro scope key depth deepest silent group member value stands proposes
    have undisputed : ¬ groupSet.Disputed groups scope key depth := by
      intro disputed
      obtain ⟨conflict, reported, place⟩ :=
        exists_mem_merge_of_disputed lists reported? disputed
      exact silent conflict reported place
    obtain ⟨decided, isDecided, same⟩ :=
      agreed_of_undisputed lists deepest undisputed
        member stands proposes
    exact ⟨decided,
      value?_merge_of_decided sound members lists reported? isDecided,
      same⟩

end Reporting

end PlacedGroup

/--
Merging distinct groups of an accepted group set, in any order, reports every
disagreement once, in order, and nothing else.
-/
theorem mergeGroups_reportsConflicts
    {groupSet : GroupSet}
    {limits : CapacityLimits}
    {hierarchy : Hierarchy}
    (accepted : groupSet.validate limits = .ok hierarchy)
    {groups : List Group}
    (distinct : groups.Nodup)
    (members : groups ⊆ groupSet.groups)
    (textKeys : ∀ group ∈ groups, group.HasTextKeys)
    (reported? : Option String) :
    ∃ merged,
      mergeGroups groups hierarchy reported? = .ok merged ∧
        groupSet.ReportsConflicts groups merged := by
  have sound := GroupSet.sound_of_validate accepted
  rw [GroupSet.hierarchy_of_validate accepted]
  obtain ⟨ordered, lists, mergedOk⟩ :=
    PlacedGroup.mergeGroups_eq_ok sound distinct members textKeys reported?
  exact ⟨PlacedGroup.merge ordered reported?, mergedOk,
    PlacedGroup.merge_reportsConflicts sound members lists reported?⟩

/-- The two children of the sample disagree on a port and on the environment. -/
theorem mergeGroups_reportsConflicts_sample :
    ∃ merged,
      mergeGroups [Sample.app, Sample.web, Sample.base]
          Sample.groupSet.hierarchy (some "reported") =
        .ok merged ∧
      Sample.groupSet.ReportsConflicts
        [Sample.app, Sample.web, Sample.base] merged :=
  mergeGroups_reportsConflicts Sample.accepted Sample.distinct Sample.members
    (fun _ member => Sample.hasTextKeys (Sample.members member))
    (some "reported")

end FleetConfig
