import FleetConfig.Proofs.Group.Set
import FleetConfig.Proofs.Number.Reading

/-!
# What a version tells

The version that a group set gets from its groups is a digest of what they are
written as.  As long as the digest does not collide, two versions are equal exactly
if the groups are the same once their numbers that are not finite are `null`.
-/

namespace FleetConfig

theorem Scalar.same_iff_eq
    {left right : Scalar} :
    left.Same right ↔ left = right := by
  constructor
  · intro same
    cases left with
    | double value =>
        cases right with
        | double other =>
            rw [Binary64.text_injective same]
        | _ =>
            contradiction
    | _ =>
        cases right <;> first | contradiction | exact same
  · rintro rfl
    exact .refl left

/-- Lists are mapped to the same exactly if their items are, one by one. -/
theorem forall₂_map_eq_iff
    {α β : Type}
    {image : α → β}
    {left right : List α} :
    List.Forall₂ (fun item other => image item = image other) left right ↔
      left.map image = right.map image := by
  rw [← List.forall₂_eq_eq_eq, List.forall₂_map_left_iff,
    List.forall₂_map_right_iff]

namespace Value

theorem same_scalar_iff
    {left right : Scalar} :
    (Value.scalar left).Same (.scalar right) ↔ left = right := by
  constructor
  · intro same
    cases same with
    | scalar same =>
        exact Scalar.same_iff_eq.mp same
  · rintro rfl
    exact .scalar (.refl left)

theorem same_text_iff
    {left right : String} :
    (text left).Same (text right) ↔ left = right := by
  rw [text, text, same_scalar_iff, Scalar.text.injEq]

theorem same_boolean_iff
    {left right : Bool} :
    (boolean left).Same (boolean right) ↔ left = right := by
  rw [boolean, boolean, same_scalar_iff, Scalar.boolean.injEq]

theorem same_list_iff
    {left right : List Value} :
    (Value.list left).Same (.list right) ↔ List.Forall₂ Same left right := by
  constructor
  · intro same
    cases same with
    | list each =>
        exact each
  · exact .list

/-- Lists of what is made of items are the same if the items are. -/
theorem same_list_map_iff
    {α : Type}
    {written : α → Value}
    {related : α → α → Prop}
    (each : ∀ left right, (written left).Same (written right) ↔ related left right)
    {left right : List α} :
    (Value.list (left.map written)).Same (.list (right.map written)) ↔
      List.Forall₂ related left right := by
  rw [same_list_iff, List.forall₂_map_left_iff, List.forall₂_map_right_iff]
  simp only [each]

theorem same_texts_iff
    {left right : List String} :
    (texts left).Same (texts right) ↔ left = right := by
  unfold texts
  rw [same_list_map_iff fun _ _ => same_text_iff, List.forall₂_eq_eq_eq]

theorem same_optionalText_iff
    {left right : Option String} :
    (optionalText left).Same (optionalText right) ↔ left = right := by
  cases left <;> cases right <;> simp [optionalText, null, text, same_scalar_iff]

/-- Records with the same fields are the same field by field. -/
theorem same_record_iff
    {names : List String}
    (distinct : names.Nodup)
    {left right : Fields}
    (leftNames : left.map Prod.fst = names)
    (rightNames : right.map Prod.fst = names) :
    (ofFields left).Same (ofFields right) ↔
      List.Forall₂ (fun field other => field.2.Same other.2) left right := by
  have sameNames : left.map Prod.fst = right.map Prod.fst := by
    rw [leftNames, rightNames]
  rw [same_ofFields_iff]
  constructor
  · rintro ⟨_, each⟩
    exact (forall₂_of_map_fst_eq sameNames each).imp fun _ _ same => same.2
  · intro each
    refine ⟨fun name => by rw [sameNames], ?_⟩
    have both :=
      List.Forall₂.mp (fun _ _ same sameName => And.intro sameName same)
        each (forall₂_map_eq_iff.mpr sameNames)
    intro name value other member otherMember
    obtain ⟨⟨found, foundValue⟩, foundMember, sameName, same⟩ :=
      exists_mem_of_forall₂ both member
    cases sameName
    rw [eq_of_mem_fields (rightNames ▸ distinct) otherMember foundMember]
    exact same

end Value

/-- A fact path is told by its text. -/
theorem FactPath.eq_of_text_eq
    {left right : FactPath}
    (same : left.text = right.text) :
    left = right := by
  obtain ⟨text, segments, parsed⟩ := left
  obtain ⟨otherText, otherSegments, otherParsed⟩ := right
  dsimp only at same
  subst same
  rw [parsed] at otherParsed
  cases otherParsed
  rfl

theorem Operator.name_injective :
    Function.Injective Operator.name := by
  intro left right same
  have isRead := left.read_name
  rw [same, right.read_name, Except.ok.injEq] at isRead
  exact isRead.symm

theorem RuleMatchType.name_injective :
    Function.Injective RuleMatchType.name := by
  intro left right same
  have isRead := left.read_name
  rw [same, right.read_name, Except.ok.injEq] at isRead
  exact isRead.symm

theorem Expected.toValue_eq_of_same
    {left right : Expected}
    (same : left.toValue.Same right.toValue) :
    left.toValue = right.toValue := by
  have scalars :
      ∀ {value other : Scalar},
        (Value.scalar value).Same (.scalar other) →
        Value.scalar value = .scalar other :=
    fun same => congrArg Value.scalar (Value.same_scalar_iff.mp same)
  cases left with
  | nothing =>
      cases right with
      | nothing =>
          rfl
      | scalar other =>
          exact scalars same
      | list others =>
          exact nomatch same
  | scalar value =>
      cases right with
      | nothing =>
          exact scalars same
      | scalar other =>
          exact scalars same
      | list others =>
          exact nomatch same
  | list items =>
      cases right with
      | nothing =>
          exact nomatch same
      | scalar other =>
          exact nomatch same
      | list others =>
          have each :=
            (Value.same_list_map_iff fun _ _ => Value.same_scalar_iff).mp same
          rw [List.forall₂_eq_eq_eq] at each
          rw [each]

/-- A condition is told by its operator and the value that it is written with. -/
theorem Condition.eq_of_written
    {left right : Condition}
    (operator : left.operator = right.operator)
    (value : left.expected.toValue = right.expected.toValue) :
    left = right := by
  have sameExpected := left.expected.ofValue_toValue
  rw [value, right.expected.ofValue_toValue, Except.ok.injEq] at sameExpected
  have fits := left.ofParts_written
  rw [operator, ← sameExpected, right.ofParts_written, Except.ok.injEq] at fits
  exact fits.symm

namespace Rule

/-- The names of the fields that a rule is written with. -/
def fieldNames : List String :=
  ["id", "fact_path", "operator", "value"]

theorem fieldNames_nodup : fieldNames.Nodup := by
  decide

theorem isJson_toPlain
    (rule : Rule) :
    rule.toPlain.IsJson := by
  refine .map fieldNames_nodup ?_
  simp only [List.forall_mem_cons]
  refine ⟨.scalar _, .scalar _, .scalar _, ?_, fun _ member => nomatch member⟩
  exact (Value.isPlain_plain _).isJson

/-- What rules are written as tells the rules, up to numbers that are not finite. -/
theorem same_toPlain_iff
    {rule other : Rule} :
    rule.toPlain.Same other.toPlain ↔ rule.plain = other.plain := by
  constructor
  · intro same
    unfold toPlain at same
    rw [Value.same_record_iff fieldNames_nodup] at same
    case leftNames => rfl
    case rightNames => rfl
    simp only [List.forall₂_cons, Value.same_text_iff] at same
    obtain ⟨id, path, operator, value, _⟩ := same
    rw [← Expected.toValue_plain, ← Expected.toValue_plain] at value
    have condition : rule.condition.plain = other.condition.plain := by
      apply Condition.eq_of_written
      · rw [Condition.operator_plain, Condition.operator_plain]
        exact Operator.name_injective operator
      · rw [Condition.expected_plain, Condition.expected_plain]
        exact Expected.toValue_eq_of_same value
    unfold plain
    rw [id, FactPath.eq_of_text_eq path, condition]
  · intro same
    rw [← rule.toPlain_plain, same, other.toPlain_plain]
    exact other.isJson_toPlain.same_self

end Rule

namespace Group

/-- The names of the fields that a group is written with. -/
def fieldNames : List String :=
  ["id", "name", "description", "parent_id", "environment",
    "is_environment_group", "match_all_nodes", "rule_match_type", "rules",
    "pinned_nodes", "classes", "parameters", "variables"]

theorem fieldNames_nodup : fieldNames.Nodup := by
  decide

/-- Groups are the same field by field; the order of keys in the payload does not count. -/
structure Same (left right : Group) : Prop where
  id : left.id = right.id
  name : left.name = right.name
  description : left.description = right.description
  parent : left.parent? = right.parent?
  environment : left.environment? = right.environment?
  assignsEnvironment : left.assignsEnvironment = right.assignsEnvironment
  matchesAllNodes : left.matchesAllNodes = right.matchesAllNodes
  matchType : left.matchType = right.matchType
  rules : left.rules = right.rules
  pinnedNodes : left.pinnedNodes = right.pinnedNodes
  classes : left.classes = right.classes
  parameters :
    (Value.ofFields left.parameters).Same (Value.ofFields right.parameters)
  globals : (Value.ofFields left.globals).Same (Value.ofFields right.globals)

/-- What groups are written as tells the groups, up to numbers that are not finite. -/
theorem same_toPlain_iff
    {group other : Group} :
    group.toPlain.Same other.toPlain ↔ group.plain.Same other.plain := by
  unfold toPlain
  rw [Value.same_record_iff fieldNames_nodup]
  case leftNames => rfl
  case rightNames => rfl
  simp only [List.forall₂_cons, Value.same_text_iff, Value.same_boolean_iff,
    Value.same_optionalText_iff, Value.same_texts_iff,
    Value.same_list_map_iff fun _ _ => Rule.same_toPlain_iff]
  constructor
  · rintro ⟨id, name, description, parent, environment, assigns, matches',
      matchType, rules, pinnedNodes, classes, parameters, globals, _⟩
    exact
      { id := id
        name := name
        description := description
        parent := parent
        environment := environment
        assignsEnvironment := assigns
        matchesAllNodes := matches'
        matchType := RuleMatchType.name_injective matchType
        rules := forall₂_map_eq_iff.mp rules
        pinnedNodes := pinnedNodes
        classes := classes
        parameters := parameters
        globals := globals }
  · intro same
    refine ⟨same.id, same.name, same.description, same.parent, same.environment,
      same.assignsEnvironment, same.matchesAllNodes, ?_, ?_, same.pinnedNodes,
      same.classes, same.parameters, same.globals, .nil⟩
    · exact congrArg RuleMatchType.name same.matchType
    · exact forall₂_map_eq_iff.mpr same.rules

/-- What a group is written as is JSON if no key stands twice on the first level of its payload. -/
theorem isJson_toPlain
    {group : Group}
    (parameters : (group.parameters.map Prod.fst).Nodup)
    (globals : (group.globals.map Prod.fst).Nodup) :
    group.toPlain.IsJson := by
  have payload :
      ∀ {fields : Fields},
        (fields.map Prod.fst).Nodup →
        (Value.ofFields (Value.plainFields fields)).IsJson := by
    intro fields distinct
    rw [← Value.plain_ofFields distinct]
    exact (Value.isPlain_plain _).isJson
  have texts : ∀ items : List String, (Value.texts items).IsJson := by
    intro items
    exact .list (List.forall_mem_map.mpr fun item _ => .scalar (.text item))
  have optional : ∀ item? : Option String, (Value.optionalText item?).IsJson := by
    intro item?
    cases item? <;> exact .scalar _
  refine .map fieldNames_nodup ?_
  simp only [List.forall_mem_cons]
  exact ⟨.scalar _, .scalar _, .scalar _, optional _, optional _, .scalar _,
    .scalar _, .scalar _,
    .list (List.forall_mem_map.mpr fun rule _ => rule.isJson_toPlain),
    texts _, texts _, payload parameters, payload globals,
    fun _ member => nomatch member⟩

theorem IsJson.toPlain
    {group : Group}
    (isJson : group.IsJson) :
    group.toPlain.IsJson :=
  isJson_toPlain (Value.isJson_ofFields_iff.mp isJson.parameters).1
    (Value.isJson_ofFields_iff.mp isJson.globals).1

theorem WellKeyed.toPlain
    {group : Group}
    (wellKeyed : group.WellKeyed) :
    group.toPlain.IsJson :=
  isJson_toPlain wellKeyed.parameters.nodup_keys wellKeyed.globals.nodup_keys

end Group

namespace GroupSet

/-- The text that the digest of groups is taken of. -/
def digestedText (groups : List Group) : String :=
  (Value.list (groups.map Group.toPlain)).canonicalJson

variable {left right : List Group}

/--
Groups are digested as the same text exactly if they are the same, up to numbers
that are not finite.
-/
theorem digestedText_eq_iff
    (leftJson : ∀ group ∈ left, group.toPlain.IsJson)
    (rightJson : ∀ group ∈ right, group.toPlain.IsJson) :
    digestedText left = digestedText right ↔
      List.Forall₂ Group.Same (left.map Group.plain) (right.map Group.plain) := by
  have leftIsJson : (Value.list (left.map Group.toPlain)).IsJson :=
    .list (List.forall_mem_map.mpr leftJson)
  have rightIsJson : (Value.list (right.map Group.toPlain)).IsJson :=
    .list (List.forall_mem_map.mpr rightJson)
  rw [List.forall₂_map_left_iff, List.forall₂_map_right_iff,
    ← Value.same_list_map_iff fun _ _ => Group.same_toPlain_iff]
  unfold digestedText Value.canonicalJson
  rw [String.ofList_inj]
  constructor
  · intro same
    exact (leftIsJson.same_of_json_append rightIsJson delimits_nil delimits_nil
      (congrArg (· ++ []) same)).1
  · exact leftIsJson.json_eq_of_same rightIsJson

/--
As long as their digests do not collide, group sets without a version of their own
have the same version exactly if their groups are the same once the numbers that
are not finite are `null`; and without such numbers exactly if their groups are the
same.
-/
theorem version_ofGroups_eq_iff
    (leftJson : ∀ group ∈ left, group.IsJson)
    (rightJson : ∀ group ∈ right, group.IsJson)
    (collisionFree :
      Digest.ofText (digestedText left) = Digest.ofText (digestedText right) →
      digestedText left = digestedText right) :
    ((ofGroups left "").version = (ofGroups right "").version ↔
        List.Forall₂ Group.Same (left.map Group.plain)
          (right.map Group.plain)) ∧
      ((∀ group ∈ left, group.IsFinite) →
        (∀ group ∈ right, group.IsFinite) →
        ((ofGroups left "").version = (ofGroups right "").version ↔
          List.Forall₂ Group.Same left right)) := by
  have versions :
      (ofGroups left "").version = (ofGroups right "").version ↔
        List.Forall₂ Group.Same (left.map Group.plain)
          (right.map Group.plain) := by
    rw [← digestedText_eq_iff
      (fun group member => (leftJson group member).toPlain)
      (fun group member => (rightJson group member).toPlain)]
    exact ⟨collisionFree, congrArg Digest.ofText⟩
  refine ⟨versions, fun leftFinite rightFinite => ?_⟩
  rw [versions, Group.map_plain_eq_self leftJson leftFinite,
    Group.map_plain_eq_self rightJson rightFinite]

end GroupSet

namespace Sample

/-- A document of a single group that sets parameters. -/
def payloadDocument (parameters : Fields) : Value :=
  .ofFields
    [("groups", .list
      [.ofFields [("id", .text "g"), ("parameters", .ofFields parameters)]])]

/-- The group that sets the parameters. -/
def payloadGroup (parameters : Fields) : Group :=
  { Group.empty "g" with parameters := parameters }

theorem read_payloadDocument
    (supply : IdSupply)
    (parameters : Fields) :
    GroupSet.read supply (payloadDocument parameters) =
      .valid (GroupSet.ofGroups [payloadGroup parameters] "") := by
  have group :
      Group.read supply
          (.ofFields
            [("id", .text "g"), ("parameters", .ofFields parameters)]) =
        .valid (payloadGroup parameters) :=
    Group.read_eq_valid_iff.mpr ⟨_, rfl,
      { id := rfl
        name := ⟨"", rfl, rfl⟩
        description := rfl
        parent := rfl
        environment := rfl
        assignsEnvironment := rfl
        matchesAllNodes := rfl
        matchType := rfl
        rules := rfl
        pinnedNodes := rfl
        classes := rfl
        parameters :=
          Schema.withDefault_ofFields rfl (Schema.fields_eq_valid_iff.mpr rfl)
        globals := rfl
        ruleIds := .nil }⟩
  refine GroupSet.read_eq_valid_iff.mpr
    ⟨_, [payloadGroup parameters], "", rfl, ?_, rfl, rfl⟩
  rw [Group.readList_eq_suppliedList]
  exact Schema.withDefault_ofFields rfl
    (Schema.suppliedList_eq_valid_iff.mpr ⟨_, rfl, .cons group .nil⟩)

/-- Parameters in some order. -/
def parameters : Fields :=
  [("port", .integer 80), ("user", .text "web")]

theorem parameters_distinct : (parameters.map Prod.fst).Nodup := by
  decide

theorem parameters_isJson : ∀ field ∈ parameters, field.2.IsJson := by
  simp only [parameters, List.forall_mem_cons]
  exact ⟨.scalar _, .scalar _, fun _ member => nomatch member⟩

theorem payloadGroup_isJson
    {fields : Fields}
    (permuted : parameters.Perm fields) :
    (payloadGroup fields).IsJson where
  parameters :=
    .map ((permuted.map Prod.fst).nodup_iff.mp parameters_distinct)
      fun field member => parameters_isJson field (permuted.mem_iff.mpr member)
  globals := .map .nil fun _ member => nomatch member

end Sample

/-- The order of parameters does not make another group, and it does not show in the version. -/
theorem GroupSet.version_ofGroups_eq_iff_reversed :
    (Sample.payloadGroup Sample.parameters).IsJson ∧
      (Sample.payloadGroup Sample.parameters.reverse).IsJson ∧
      (Sample.payloadGroup Sample.parameters).IsFinite ∧
      (Sample.payloadGroup Sample.parameters.reverse).IsFinite ∧
      (GroupSet.ofGroups [Sample.payloadGroup Sample.parameters] "").version =
        (GroupSet.ofGroups [Sample.payloadGroup Sample.parameters.reverse]
          "").version := by
  have reversed : Sample.parameters.Perm Sample.parameters.reverse :=
    (List.reverse_perm _).symm
  have leftJson := Sample.payloadGroup_isJson (.refl _)
  have rightJson := Sample.payloadGroup_isJson reversed
  have leftAll := List.forall_mem_singleton.mpr leftJson
  have rightAll := List.forall_mem_singleton.mpr rightJson
  have leftFinite : (Sample.payloadGroup Sample.parameters).IsFinite :=
    ⟨by decide, by decide, by decide⟩
  have rightFinite : (Sample.payloadGroup Sample.parameters.reverse).IsFinite :=
    ⟨by decide, by decide, by decide⟩
  have same :
      (Sample.payloadGroup Sample.parameters).Same
        (Sample.payloadGroup Sample.parameters.reverse) := by
    refine ⟨rfl, rfl, rfl, rfl, rfl, rfl, rfl, rfl, rfl, rfl, rfl, ?_, ?_⟩
    · exact Value.IsJson.same_of_perm Sample.parameters_distinct
        Sample.parameters_isJson reversed
    · exact leftJson.globals.same_self
  have sameText :
      GroupSet.digestedText [Sample.payloadGroup Sample.parameters] =
        GroupSet.digestedText [Sample.payloadGroup Sample.parameters.reverse] := by
    refine (GroupSet.digestedText_eq_iff
      (fun group member => (leftAll group member).toPlain)
      (fun group member => (rightAll group member).toPlain)).mpr ?_
    rw [Group.map_plain_eq_self leftAll (List.forall_mem_singleton.mpr leftFinite),
      Group.map_plain_eq_self rightAll
        (List.forall_mem_singleton.mpr rightFinite)]
    exact .cons same .nil
  obtain ⟨_, versions⟩ :=
    GroupSet.version_ofGroups_eq_iff leftAll rightAll fun _ => sameText
  refine ⟨leftJson, rightJson, leftFinite, rightFinite, ?_⟩
  exact (versions (List.forall_mem_singleton.mpr leftFinite)
    (List.forall_mem_singleton.mpr rightFinite)).mpr (.cons same .nil)

/-- A number that is not finite has the version of `null`, but is not `null`. -/
theorem GroupSet.version_of_nan :
    ∃ left right,
      GroupSet.read (.numbered 0)
            (Sample.payloadDocument [("x", .double .nan)]) =
          .valid left ∧
        GroupSet.read (.numbered 0) (Sample.payloadDocument [("x", .null)]) =
          .valid right ∧
        left.version = right.version ∧
        ¬ List.Forall₂ Group.Same left.groups right.groups := by
  refine ⟨_, _, Sample.read_payloadDocument _ _,
    Sample.read_payloadDocument _ _, rfl, ?_⟩
  intro same
  cases same with
  | cons same _ =>
      have payload := same.parameters
      rw [Value.same_ofFields_iff] at payload
      have value := payload.2 "x" (.double .nan) .null
        (List.mem_singleton.mpr rfl) (List.mem_singleton.mpr rfl)
      exact absurd (Value.same_scalar_iff.mp value) (by decide)

end FleetConfig
