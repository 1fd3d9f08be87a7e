import FleetConfig.Proofs.Classification.PlacedGroups
import FleetConfig.Service.Engine
import Mathlib

/-!
# Precedence of groups

The value merged under a key is that of the deepest group that sets it, and of
the least identifier among those equally deep.  Parameters and global variables
follow this law independently.  An environment is assigned by the same law; the
one that the node reports stands only if no group assigns any.
-/

namespace FleetConfig

namespace GroupSet

/--
A group goes before another in a merge: deeper, or equally deep under a lesser
identifier.
-/
def Outranks
    (groupSet : GroupSet)
    (group other : Group) :
    Prop :=
  ∃ depth otherDepth,
    groupSet.parents.HasDepth group.id depth ∧
      groupSet.parents.HasDepth other.id otherDepth ∧
      (otherDepth < depth ∨ otherDepth = depth ∧ group.id < other.id)

/--
Among groups, one decides on a key: it proposes a value and outranks all others
that do.
-/
structure Decides
    (groupSet : GroupSet)
    (groups : List Group)
    (scope : ConflictScope)
    (key : String)
    (group : Group) :
    Prop where
  member : group ∈ groups
  proposes : ∃ value, group.Proposes scope key value
  foremost :
    ∀ other ∈ groups,
      (∃ value, other.Proposes scope key value) →
      other = group ∨ groupSet.Outranks group other

/-- Fields hold what groups set in a scope, each key as the group that decides on it. -/
structure MergedByPrecedence
    (groupSet : GroupSet)
    (groups : List Group)
    (scope : ConflictScope)
    (merged : Fields) :
    Prop where
  distinct : (merged.map Prod.fst).Nodup
  keys :
    ∀ key,
      key ∈ merged.map Prod.fst ↔
        ∃ group ∈ groups, ∃ value, group.Proposes scope key value
  values :
    ∀ key value,
      Fields.find? merged key = some value ↔
        ∃ group,
          groupSet.Decides groups scope key group ∧
            group.Proposes scope key value

/--
The environment of the group that decides on it, or the reported one if none
assigns any.
-/
def EnvironmentByPrecedence
    (groupSet : GroupSet)
    (groups : List Group)
    (reported? environment? : Option String) :
    Prop :=
  (∃ group,
      groupSet.Decides groups .environment "environment" group ∧
        environment? = group.environment?) ∨
    (∀ group ∈ groups, ∀ value,
        ¬ group.Proposes .environment "environment" value) ∧
      environment? = reported?

end GroupSet

theorem Group.Proposes.unique
    {group : Group}
    {scope : ConflictScope}
    {key : String}
    {value other : Value}
    (proposes : group.Proposes scope key value)
    (proposesOther : group.Proposes scope key other) :
    value = other := by
  rw [PlacedGroup.proposes_iff] at proposes proposesOther
  rw [proposes] at proposesOther
  exact Option.some.inj proposesOther

namespace PlacedGroup

section Merging

variable {groupSet : GroupSet} {groups : List Group} {ordered : List PlacedGroup}
variable {scope : ConflictScope} {key : String}

/-- The group behind the foremost proposal decides. -/
theorem decides_of_foremost
    (sound : groupSet.parents.Sound)
    (members : groups ⊆ groupSet.groups)
    (lists : Lists groupSet groups ordered)
    {proposal : Proposal}
    (foremost :
      Proposal.Foremost (proposals scope.payload ordered key) proposal) :
    ∃ group,
      groupSet.Decides groups scope key group ∧
        group.Proposes scope key proposal.value := by
  obtain ⟨group, member, stands, sameId, proposes⟩ :=
    (mem_proposals lists).mp foremost.member
  refine ⟨group, ⟨member, ⟨proposal.value, proposes⟩, ?_⟩, proposes⟩
  rintro other otherMember ⟨value, otherProposes⟩
  obtain ⟨depth, otherStands⟩ :=
    GroupSet.grounded_of_mem sound (members otherMember)
  have listed :
      Proposal.mk depth other.id value ∈
        proposals scope.payload ordered key :=
    (mem_proposals lists).mpr
      ⟨other, otherMember, otherStands, rfl, otherProposes⟩
  rcases foremost.outranks _ listed with same | higher
  · left
    apply GroupSet.eq_of_id_eq sound (members otherMember) (members member)
    exact (congrArg Proposal.group same).trans sameId.symm
  · right
    rw [← sameId] at higher
    exact ⟨proposal.depth, depth, stands, otherStands, higher⟩

/-- The value that the deciding group proposes is the foremost proposal. -/
theorem foremost_of_decides
    (sound : groupSet.parents.Sound)
    (members : groups ⊆ groupSet.groups)
    (lists : Lists groupSet groups ordered)
    {group : Group}
    (decides : groupSet.Decides groups scope key group)
    {value : Value}
    (proposes : group.Proposes scope key value) :
    ∃ proposal,
      Proposal.Foremost (proposals scope.payload ordered key) proposal ∧
        proposal.value = value := by
  obtain ⟨depth, stands⟩ :=
    GroupSet.grounded_of_mem sound (members decides.member)
  refine ⟨⟨depth, group.id, value⟩, ⟨?_, ?_⟩, rfl⟩
  · exact (mem_proposals lists).mpr
      ⟨group, decides.member, stands, rfl, proposes⟩
  · rintro ⟨otherDepth, otherId, otherValue⟩ listed
    obtain ⟨other, member, otherStands, sameId, otherProposes⟩ :=
      (mem_proposals lists).mp listed
    dsimp only at otherStands sameId otherProposes ⊢
    subst sameId
    rcases decides.foremost other member ⟨otherValue, otherProposes⟩ with
        same | ⟨groupDepth, rivalDepth, groupStands, rivalStands, higher⟩
    · left
      subst same
      rw [otherStands.unique sound.distinct stands,
        otherProposes.unique proposes]
    · right
      rw [stands.unique sound.distinct groupStands,
        otherStands.unique sound.distinct rivalStands]
      exact higher

/-- What is decided on is what the deciding group proposes. -/
theorem decided?_proposals_eq_some_iff
    (sound : groupSet.parents.Sound)
    (members : groups ⊆ groupSet.groups)
    (lists : Lists groupSet groups ordered)
    {value : Value} :
    Proposal.decided? (proposals scope.payload ordered key) = some value ↔
      ∃ group,
        groupSet.Decides groups scope key group ∧
          group.Proposes scope key value := by
  rw [Proposal.decided?_eq_some_iff (proposals_inOrder lists)]
  constructor
  · rintro ⟨proposal, foremost, rfl⟩
    exact decides_of_foremost sound members lists foremost
  · rintro ⟨group, decides, proposes⟩
    exact foremost_of_decides sound members lists decides proposes

theorem proposals_eq_nil_iff
    (sound : groupSet.parents.Sound)
    (members : groups ⊆ groupSet.groups)
    (lists : Lists groupSet groups ordered) :
    proposals scope.payload ordered key = [] ↔
      ∀ group ∈ groups, ∀ value, ¬ group.Proposes scope key value := by
  rw [List.eq_nil_iff_forall_not_mem]
  constructor
  · intro none group member value proposes
    obtain ⟨depth, stands⟩ :=
      GroupSet.grounded_of_mem sound (members member)
    exact none ⟨depth, group.id, value⟩
      ((mem_proposals lists).mpr ⟨group, member, stands, rfl, proposes⟩)
  · intro none proposal listed
    obtain ⟨group, member, _, _, proposes⟩ :=
      (mem_proposals lists).mp listed
    exact none group member proposal.value proposes

/-- The merged values of a scope follow the precedence of the groups. -/
theorem values_mergedByPrecedence
    (sound : groupSet.parents.Sound)
    (members : groups ⊆ groupSet.groups)
    (lists : Lists groupSet groups ordered)
    (scope : ConflictScope) :
    groupSet.MergedByPrecedence groups scope
      (values scope.payload ordered) := by
  refine ⟨nodup_map_fst_values _ _, ?_, ?_⟩
  · intro key
    rw [← Fields.find?_isSome_iff, find?_values,
      Option.isSome_iff_ne_none, Ne,
      Proposal.decided?_eq_none_iff (proposals_inOrder lists),
      proposals_eq_nil_iff sound members lists]
    simp
  · intro key value
    rw [find?_values]
    exact decided?_proposals_eq_some_iff sound members lists

theorem environment?_of_decided
    {reported? : Option String}
    {environment : String}
    (decided :
      Proposal.decided?
          (proposals ConflictScope.environment.payload ordered
            "environment") =
        some (.text environment)) :
    environment? ordered reported? = some environment := by
  unfold environment?
  rw [show Proposal.decided? (proposals assignedEnvironment ordered
    "environment") = some (.text environment) from decided]

/-- The merged environment follows the precedence of the groups. -/
theorem environment?_environmentByPrecedence
    (sound : groupSet.parents.Sound)
    (members : groups ⊆ groupSet.groups)
    (lists : Lists groupSet groups ordered)
    (reported? : Option String) :
    groupSet.EnvironmentByPrecedence groups reported?
      (environment? ordered reported?) := by
  have inOrder :
      Proposal.InOrder
        (proposals ConflictScope.environment.payload ordered
          "environment") :=
    proposals_inOrder lists
  cases decided :
      Proposal.decided?
        (proposals ConflictScope.environment.payload ordered
          "environment") with
  | none =>
      right
      have undecided := (Proposal.decided?_eq_none_iff inOrder).mp decided
      refine ⟨(proposals_eq_nil_iff sound members lists).mp undecided, ?_⟩
      unfold environment?
      rw [show Proposal.decided? (proposals assignedEnvironment ordered
        "environment") = none from decided]
  | some value =>
      left
      obtain ⟨group, decides, proposes⟩ :=
        (decided?_proposals_eq_some_iff sound members lists).mp decided
      refine ⟨group, decides, ?_⟩
      cases proposes with
      | environment _ named _ =>
          rw [environment?_of_decided decided, named]

end Merging

end PlacedGroup

/--
Distinct groups of an accepted group set, in any order, are merged so that the
deepest group and then the least identifier prevails.
-/
theorem mergeGroups_precedence
    {groupSet : GroupSet}
    {limits : CapacityLimits}
    {hierarchy : Hierarchy}
    (accepted : groupSet.validate limits = .ok hierarchy)
    {groups : List Group}
    (distinct : groups.Nodup)
    (members : groups ⊆ groupSet.groups)
    (textKeys : ∀ group ∈ groups, group.HasTextKeys)
    (reported? : Option String) :
    ∃ merged,
      mergeGroups groups hierarchy reported? = .ok merged ∧
        groupSet.MergedByPrecedence groups .parameters merged.parameters ∧
        groupSet.MergedByPrecedence groups .globals merged.globals ∧
        groupSet.EnvironmentByPrecedence groups reported?
          merged.environment? := by
  have sound := GroupSet.sound_of_validate accepted
  rw [GroupSet.hierarchy_of_validate accepted]
  obtain ⟨ordered, lists, mergedOk⟩ :=
    PlacedGroup.mergeGroups_eq_ok sound distinct members textKeys reported?
  exact ⟨PlacedGroup.merge ordered reported?, mergedOk,
    PlacedGroup.values_mergedByPrecedence sound members lists .parameters,
    PlacedGroup.values_mergedByPrecedence sound members lists .globals,
    PlacedGroup.environment?_environmentByPrecedence sound members lists
      reported?⟩

namespace Sample

/-- A root that takes all nodes. -/
def base : Group :=
  { Group.empty "base" with
    matchesAllNodes := true,
    classes := ["ntp", "base"],
    parameters := [("port", .integer 80), ("motd", .text "welcome")] }

/-- The path of the fact that the rules of the sample look at. -/
def rolePath : FactPath :=
  ⟨"role", [.key "role"], by cbv⟩

/-- A child with an environment and two rules, of which one has a bad pattern. -/
def web : Group :=
  { Group.empty "web" with
    parent? := some "base",
    environment? := some "production",
    assignsEnvironment := true,
    matchType := .any,
    rules :=
      [⟨"r1", rolePath, .pattern false "^web"⟩,
        ⟨"r2", rolePath, .pattern false "("⟩],
    classes := ["nginx", "ntp"],
    parameters := [("port", .integer 8080)] }

/-- A child with another environment, to which one node is pinned. -/
def app : Group :=
  { Group.empty "app" with
    parent? := some "base",
    environment? := some "staging",
    assignsEnvironment := true,
    pinnedNodes := ["node1"],
    parameters := [("port", .integer 9090)] }

/-- A root with two children. -/
def groupSet : GroupSet :=
  ⟨[web, base, app], "v1"⟩

/-- The sample is accepted under the standard limits. -/
theorem accepted :
    groupSet.validate (Engine.limits {}) = .ok groupSet.hierarchy := by
  cbv

/-- The groups of the sample are distinct, in whatever order. -/
theorem distinct :
    [app, web, base].Nodup :=
  List.Nodup.of_map (·.id) (by decide)

/-- The groups of the sample, in another order than that of the set. -/
theorem members :
    [app, web, base] ⊆ groupSet.groups := by
  simp [groupSet]

theorem hasTextKeys
    {group : Group}
    (member : group ∈ groupSet.groups) :
    group.HasTextKeys := by
  simp only [groupSet, List.mem_cons, List.not_mem_nil, or_false] at member
  rcases member with rfl | rfl | rfl <;>
    constructor <;>
    simp [web, base, app, Group.empty, Value.hasTextKeys]

end Sample

/--
The two children of the sample are merged over their root, given in another
order.
-/
theorem mergeGroups_precedence_sample :
    ∃ merged,
      mergeGroups [Sample.app, Sample.web, Sample.base]
          Sample.groupSet.hierarchy (some "reported") =
        .ok merged ∧
      Sample.groupSet.MergedByPrecedence
        [Sample.app, Sample.web, Sample.base] .parameters
        merged.parameters ∧
      Sample.groupSet.MergedByPrecedence
        [Sample.app, Sample.web, Sample.base] .globals merged.globals ∧
      Sample.groupSet.EnvironmentByPrecedence
        [Sample.app, Sample.web, Sample.base] (some "reported")
        merged.environment? :=
  mergeGroups_precedence Sample.accepted Sample.distinct Sample.members
    (fun _ member => Sample.hasTextKeys (Sample.members member))
    (some "reported")

end FleetConfig
