import FleetConfig.Proofs.Text.Order
import FleetConfig.Proofs.Value.JsonScalar
import Mathlib.Data.List.Forall2

/-!
# Canonical JSON tells values apart

Two values have the same canonical text exactly when they are the same value,
where the order of keys does not count.  The proof reads the texts from the left:
what a text begins with tells the value it is the text of, and what is left over
begins with a delimiter.  So the parts of lists and maps can be told one after
the other.
-/

namespace FleetConfig

/-- Pieces with something before each but the first one. -/
theorem joined_cons
    (separator piece : List Char)
    (rest : List (List Char)) :
    joined separator (piece :: rest) =
      piece ++ rest.flatMap (separator ++ ·) := by
  induction rest generalizing piece with
  | nil =>
      simp [joined]
  | cons next rest inductionHypothesis =>
      rw [joined, inductionHypothesis, List.flatMap_cons]
      · simp only [List.append_assoc]
      · simp

section Sequences

variable {α β : Type}
  {related : α → α → Prop}
  {left right : List α}

/-- Every item is related to one of the others. -/
theorem exists_mem_of_forall₂
    (each : List.Forall₂ related left right)
    {item : α}
    (member : item ∈ left) :
    ∃ other ∈ right, related item other := by
  induction each with
  | nil =>
      contradiction
  | cons first _ inductionHypothesis =>
      rcases List.mem_cons.mp member with rfl | inRest
      · exact ⟨_, List.mem_cons_self, first⟩
      · obtain ⟨other, otherMember, holds⟩ := inductionHypothesis inRest
        exact ⟨other, List.mem_cons_of_mem _ otherMember, holds⟩

/-- Lists are mapped to the same if related items are. -/
theorem map_eq_of_forall₂
    {image : α → β}
    (each : List.Forall₂ related left right)
    (same :
      ∀ item ∈ left, ∀ other ∈ right,
        related item other → image item = image other) :
    left.map image = right.map image := by
  induction each with
  | nil =>
      rfl
  | @cons item other items others first _ inductionHypothesis =>
      rw [List.map_cons, List.map_cons,
        same item List.mem_cons_self other List.mem_cons_self first,
        inductionHypothesis fun item member other otherMember =>
          same item (List.mem_cons_of_mem _ member) other
            (List.mem_cons_of_mem _ otherMember)]

variable {piece : α → List Char}
  {closer : Char}
  {leftRest rightRest : List Char}

/-- After a piece comes a comma or what closes the sequence. -/
theorem delimits_pieces
    (closes : isWordCharacter closer = false)
    (pieces : List α)
    (rest : List Char) :
    Delimits
      (pieces.flatMap (fun item => ',' :: piece item) ++ closer :: rest) := by
  cases pieces with
  | nil =>
      exact delimits_cons closes rest
  | cons item pieces =>
      exact delimits_cons rfl _

/-- Pieces that are told from what a text begins with are told one after the other. -/
theorem pieces_append_inj
    (closes : isWordCharacter closer = false)
    (notComma : closer ≠ ',')
    (each :
      ∀ item ∈ left, ∀ other ∈ right, ∀ itemRest otherRest,
        Delimits itemRest →
        Delimits otherRest →
        piece item ++ itemRest = piece other ++ otherRest →
        related item other ∧ itemRest = otherRest)
    (same :
      left.flatMap (fun item => ',' :: piece item) ++ closer :: leftRest =
        right.flatMap (fun item => ',' :: piece item) ++
          closer :: rightRest) :
    List.Forall₂ related left right ∧ leftRest = rightRest := by
  induction left generalizing right with
  | nil =>
      cases right with
      | nil =>
          exact ⟨.nil, (List.cons.inj same).2⟩
      | cons other others =>
          exact absurd (List.cons.inj same).1 notComma
  | cons item items inductionHypothesis =>
      cases right with
      | nil =>
          exact absurd (List.cons.inj same).1.symm notComma
      | cons other others =>
          simp only [List.flatMap_cons, List.cons_append, List.append_assoc]
            at same
          obtain ⟨holds, sameRest⟩ :=
            each item List.mem_cons_self other List.mem_cons_self _ _
              (delimits_pieces closes items leftRest)
              (delimits_pieces closes others rightRest)
              (List.cons.inj same).2
          obtain ⟨hold, rest⟩ :=
            inductionHypothesis
              (fun item member other otherMember =>
                each item (List.mem_cons_of_mem _ member) other
                  (List.mem_cons_of_mem _ otherMember))
              sameRest
          exact ⟨.cons holds hold, rest⟩

/-- Joined pieces that do not begin like what closes the sequence are told apart. -/
theorem joined_append_inj
    (closes : isWordCharacter closer = false)
    (notComma : closer ≠ ',')
    (opens : ∀ item, ∀ rest more, piece item ++ rest ≠ closer :: more)
    (each :
      ∀ item ∈ left, ∀ other ∈ right, ∀ itemRest otherRest,
        Delimits itemRest →
        Delimits otherRest →
        piece item ++ itemRest = piece other ++ otherRest →
        related item other ∧ itemRest = otherRest)
    (same :
      joined [','] (left.map piece) ++ closer :: leftRest =
        joined [','] (right.map piece) ++ closer :: rightRest) :
    List.Forall₂ related left right ∧ leftRest = rightRest := by
  cases left with
  | nil =>
      cases right with
      | nil =>
          exact ⟨.nil, (List.cons.inj same).2⟩
      | cons other others =>
          rw [List.map_cons, joined_cons, List.append_assoc] at same
          exact absurd same.symm (opens other _ _)
  | cons item items =>
      cases right with
      | nil =>
          rw [List.map_cons, joined_cons, List.append_assoc] at same
          exact absurd same (opens item _ _)
      | cons other others =>
          rw [List.map_cons, List.map_cons, joined_cons, joined_cons,
            List.append_assoc, List.append_assoc, List.flatMap_map,
            List.flatMap_map] at same
          obtain ⟨holds, sameRest⟩ :=
            each item List.mem_cons_self other List.mem_cons_self _ _
              (delimits_pieces closes items leftRest)
              (delimits_pieces closes others rightRest) same
          obtain ⟨hold, rest⟩ :=
            pieces_append_inj closes notComma
              (fun item member other otherMember =>
                each item (List.mem_cons_of_mem _ member) other
                  (List.mem_cons_of_mem _ otherMember))
              sameRest
          exact ⟨.cons holds hold, rest⟩

end Sequences

namespace Value

/-- The values of JSON: the keys of a map are texts, and no two of them are the same. -/
inductive IsJson : Value → Prop where
  | scalar
      (value : Scalar) :
      IsJson (.scalar value)
  | list
      {items : List Value}
      (each : ∀ item ∈ items, IsJson item) :
      IsJson (.list items)
  | map
      {fields : Fields}
      (distinct : (fields.map Prod.fst).Nodup)
      (each : ∀ field ∈ fields, IsJson field.2) :
      IsJson (.ofFields fields)

/--
Values are the same: lists item by item, and maps if they have the same keys and
the same values under them, in whatever order.
-/
inductive Same : Value → Value → Prop where
  | scalar
      {left right : Scalar}
      (same : left.Same right) :
      Same (.scalar left) (.scalar right)
  | list
      {left right : List Value}
      (each : List.Forall₂ Same left right) :
      Same (.list left) (.list right)
  | map
      {left right : Entries}
      (keys : ∀ key, key ∈ left.map Prod.fst ↔ key ∈ right.map Prod.fst)
      (each :
        ∀ key leftValue rightValue,
          (key, leftValue) ∈ left →
          (key, rightValue) ∈ right →
          Same leftValue rightValue) :
      Same (.map left) (.map right)

/-- A field of a map as canonical text. -/
def fieldJson (field : String × Value) : List Char :=
  Text.jsonString field.1 ++ ':' :: field.2.json .canonical

/-- Fields in the order in which they are written. -/
def sortedFields (fields : Fields) : Fields :=
  fields.mergeSort fun left right => Text.atMost left.1 right.1

theorem json_list
    (items : List Value) :
    (Value.list items).json .canonical =
      '[' :: (joined [','] (items.map (·.json .canonical)) ++ [']']) := by
  have written :
      jsonItems .canonical items = items.map (·.json .canonical) := by
    induction items with
    | nil =>
        rfl
    | cons item rest inductionHypothesis =>
        rw [jsonItems, inductionHypothesis]
        rfl
  rw [json, written]
  rfl

theorem ofFields_eq
    (fields : Fields) :
    ofFields fields =
      .map (fields.map fun field => (.text field.1, field.2)) :=
  rfl

theorem json_ofFields
    (fields : Fields) :
    (ofFields fields).json .canonical =
      '\x7b' ::
        (joined [','] ((sortedFields fields).map fieldJson) ++ ['\x7d']) := by
  have written :
      jsonEntries .canonical
          (fields.map fun field => (.text field.1, field.2)) =
        fields.map fun field => (.text field.1, fieldJson field) := by
    induction fields with
    | nil =>
        rfl
    | cons field rest inductionHypothesis =>
        rw [List.map_cons, jsonEntries, inductionHypothesis]
        simp [fieldJson, Scalar.jsonKey, Scalar.jsonWord,
          JsonLayout.canonical]
  -- Sorting the written entries by their keys is writing the sorted fields.
  have sorted :
      (fields.map fun field =>
            (Scalar.text field.1, fieldJson field)).mergeSort
          (fun left right => left.1.keyAtMost right.1) =
        (sortedFields fields).map fun field =>
          (Scalar.text field.1, fieldJson field) := by
    symm
    apply List.map_mergeSort
    intro left _ right _
    rfl
  rw [ofFields_eq, json, written]
  change
    '\x7b' ::
        (joined [','] ((List.mergeSort _ _).map Prod.snd) ++ ['\x7d']) =
      _
  rw [sorted, List.map_map]
  rfl

theorem mem_sortedFields
    {fields : Fields}
    {field : String × Value} :
    field ∈ sortedFields fields ↔ field ∈ fields :=
  List.mem_mergeSort

theorem keys_sortedFields_perm
    (fields : Fields) :
    ((sortedFields fields).map Prod.fst).Perm (fields.map Prod.fst) :=
  (List.mergeSort_perm fields _).map Prod.fst

/-- Fields with different keys are written in strictly ascending order. -/
theorem keys_sortedFields_strictlyAscending
    {fields : Fields}
    (distinct : (fields.map Prod.fst).Nodup) :
    Text.StrictlyAscending ((sortedFields fields).map Prod.fst) := by
  have sortedDistinct :=
    (keys_sortedFields_perm fields).nodup_iff.mpr distinct
  have sorted :=
    List.pairwise_mergeSort
      (fun first second third : String × Value =>
        Text.atMost_trans first.1 second.1 third.1)
      (fun left right => Text.atMost_total left.1 right.1) fields
  refine List.pairwise_map.mpr
    ((sorted.and (List.pairwise_map.mp sortedDistinct)).imp ?_)
  rintro left right ⟨atMost, different⟩
  exact (Text.lt_or_lt_of_ne different).resolve_right
    (Text.atMost_iff.mp atMost)

/-- The fields at given places. -/
def fieldsAt (fields : Fields) (places : List Nat) : Fields :=
  places.filterMap (fields[·]?)

theorem fieldsAt_range
    (fields : Fields) :
    fieldsAt fields (List.range fields.length) = fields := by
  unfold fieldsAt
  induction fields with
  | nil =>
      rfl
  | cons field rest inductionHypothesis =>
      rw [List.length_cons, List.range_succ_eq_map, List.filterMap_cons,
        List.filterMap_map]
      exact congrArg (field :: ·) inductionHypothesis

/-- Fields are written in the only ascending order that they have. -/
theorem sortedFields_eq
    {fields sorted : Fields}
    (places : List Nat)
    (permuted : (List.range fields.length).Perm places)
    (found : fieldsAt fields places = sorted)
    (ascends : Text.StrictlyAscending (sorted.map Prod.fst)) :
    sortedFields fields = sorted := by
  have rearranged : fields.Perm sorted := by
    have picked := permuted.filterMap (fields[·]?)
    change (fieldsAt fields _).Perm (fieldsAt fields places) at picked
    rwa [fieldsAt_range, found] at picked
  have distinct : (fields.map Prod.fst).Nodup :=
    (rearranged.map Prod.fst).nodup_iff.mpr ascends.nodup
  have sortedAscends :
      (sortedFields fields).Pairwise (fun left right => left.1 < right.1) :=
    List.pairwise_map.mp (keys_sortedFields_strictlyAscending distinct)
  refine List.Perm.eq_of_pairwise (fun left right _ _ less greater => ?_)
    sortedAscends (List.pairwise_map.mp ascends)
    ((List.mergeSort_perm fields _).trans rearranged)
  exact absurd greater (String.lt_asymm less)

/-- A record is written with its fields in ascending order. -/
theorem json_ofFields_eq
    {fields sorted : Fields}
    (places : List Nat)
    (permuted : (List.range fields.length).Perm places)
    (found : fieldsAt fields places = sorted)
    (ascends : Text.StrictlyAscending (sorted.map Prod.fst)) :
    (ofFields fields).json .canonical =
      '\x7b' :: (joined [','] (sorted.map fieldJson) ++ ['\x7d']) := by
  rw [json_ofFields, sortedFields_eq places permuted found ascends]

theorem mem_entries_ofFields
    {fields : Fields}
    {key : Scalar}
    {value : Value} :
    (key, value) ∈ fields.map (fun field => (Scalar.text field.1, field.2)) ↔
      ∃ name, key = .text name ∧ (name, value) ∈ fields := by
  constructor
  · intro member
    obtain ⟨⟨name, _⟩, listed, made⟩ := List.mem_map.mp member
    cases made
    exact ⟨name, rfl, listed⟩
  · rintro ⟨name, rfl, listed⟩
    exact List.mem_map.mpr ⟨(name, value), listed, rfl⟩

theorem mem_keys_ofFields
    {fields : Fields}
    {name : String} :
    Scalar.text name ∈
        (fields.map fun field => (Scalar.text field.1, field.2)).map
          Prod.fst ↔
      name ∈ fields.map Prod.fst := by
  simp

/-- Maps are the same if they have the same keys and the same values under them. -/
theorem same_ofFields_iff
    {left right : Fields} :
    (ofFields left).Same (ofFields right) ↔
      (∀ name, name ∈ left.map Prod.fst ↔ name ∈ right.map Prod.fst) ∧
        ∀ name leftValue rightValue,
          (name, leftValue) ∈ left →
          (name, rightValue) ∈ right →
          leftValue.Same rightValue := by
  constructor
  · intro same
    obtain _ | _ | ⟨keys, each⟩ := same
    refine ⟨fun name => ?_, ?_⟩
    · rw [← mem_keys_ofFields, ← mem_keys_ofFields]
      exact keys (.text name)
    · intro name leftValue rightValue leftMember rightMember
      exact each (.text name) leftValue rightValue
        (mem_entries_ofFields.mpr ⟨name, rfl, leftMember⟩)
        (mem_entries_ofFields.mpr ⟨name, rfl, rightMember⟩)
  · rintro ⟨names, each⟩
    refine .map (fun key => ?_) ?_
    · cases key with
      | text name =>
          rw [mem_keys_ofFields, mem_keys_ofFields]
          exact names name
      | _ =>
          simp
    · intro key leftValue rightValue leftMember rightMember
      obtain ⟨name, rfl, leftListed⟩ := mem_entries_ofFields.mp leftMember
      obtain ⟨_, ⟨⟩, rightListed⟩ := mem_entries_ofFields.mp rightMember
      exact each name leftValue rightValue leftListed rightListed

/-- Without repeated keys there is one value under a key. -/
theorem eq_of_mem_fields
    {fields : Fields}
    (distinct : (fields.map Prod.fst).Nodup)
    {name : String}
    {value other : Value}
    (member : (name, value) ∈ fields)
    (otherMember : (name, other) ∈ fields) :
    value = other := by
  have sameField :=
    List.inj_on_of_nodup_map distinct member otherMember rfl
  exact (Prod.mk.inj sameField).2

/-- Under equal keys in the same order there are values to compare one by one. -/
theorem forall₂_of_map_fst_eq
    {left right : Fields}
    (names : left.map Prod.fst = right.map Prod.fst)
    (each :
      ∀ name leftValue rightValue,
        (name, leftValue) ∈ left →
        (name, rightValue) ∈ right →
        leftValue.Same rightValue) :
    List.Forall₂
      (fun field other => field.1 = other.1 ∧ field.2.Same other.2)
      left right := by
  induction left generalizing right with
  | nil =>
      cases List.map_eq_nil_iff.mp names.symm
      exact .nil
  | cons field rest inductionHypothesis =>
      obtain ⟨other, others, rfl, sameName, sameNames⟩ :=
        List.map_eq_cons_iff.mp names.symm
      refine .cons ⟨sameName.symm, ?_⟩ ?_
      · exact each other.1 field.2 other.2
          (by rw [sameName]; exact List.mem_cons_self) List.mem_cons_self
      · exact inductionHypothesis sameNames.symm
          fun name leftValue rightValue leftMember rightMember =>
            each name leftValue rightValue
              (List.mem_cons_of_mem field leftMember)
              (List.mem_cons_of_mem other rightMember)

/-- Maps are the same exactly when their fields are, in the order in which they are written. -/
theorem forall₂_sortedFields_iff
    {left right : Fields}
    (leftDistinct : (left.map Prod.fst).Nodup)
    (rightDistinct : (right.map Prod.fst).Nodup) :
    List.Forall₂
        (fun field other => field.1 = other.1 ∧ field.2.Same other.2)
        (sortedFields left) (sortedFields right) ↔
      (ofFields left).Same (ofFields right) := by
  rw [same_ofFields_iff]
  constructor
  · intro each
    have names :
        (sortedFields left).map Prod.fst = (sortedFields right).map Prod.fst :=
      map_eq_of_forall₂ each fun _ _ _ _ same => same.1
    constructor
    · intro name
      rw [← (keys_sortedFields_perm left).mem_iff,
        ← (keys_sortedFields_perm right).mem_iff, names]
    · intro name leftValue rightValue leftMember rightMember
      obtain ⟨⟨otherName, otherValue⟩, otherMember, sameName, sameValue⟩ :=
        exists_mem_of_forall₂ each (mem_sortedFields.mpr leftMember)
      cases sameName
      rw [eq_of_mem_fields rightDistinct rightMember
        (mem_sortedFields.mp otherMember)]
      exact sameValue
  · rintro ⟨names, each⟩
    apply forall₂_of_map_fst_eq
    · apply Text.StrictlyAscending.eq_of_mem_iff
        (keys_sortedFields_strictlyAscending leftDistinct)
        (keys_sortedFields_strictlyAscending rightDistinct)
      intro name
      rw [(keys_sortedFields_perm left).mem_iff,
        (keys_sortedFields_perm right).mem_iff]
      exact names name
    · intro name leftValue rightValue leftMember rightMember
      exact each name leftValue rightValue (mem_sortedFields.mp leftMember)
        (mem_sortedFields.mp rightMember)

/-- No value begins with what closes a list. -/
theorem json_append_ne
    (value : Value)
    (rest more : List Char) :
    value.json .canonical ++ rest ≠ ']' :: more := by
  cases value with
  | scalar scalar =>
      exact scalar.json_append_ne (by decide) rfl rest more
  | list items =>
      intro same
      exact absurd (List.cons.inj same).1 (by decide)
  | map entries =>
      intro same
      exact absurd (List.cons.inj same).1 (by decide)

/-- No field begins with what closes a map. -/
theorem fieldJson_append_ne
    (field : String × Value)
    (rest more : List Char) :
    fieldJson field ++ rest ≠ '\x7d' :: more := by
  intro same
  exact absurd (List.cons.inj same).1 (by decide)

/-- A field is told from its key and its value. -/
theorem fieldJson_append_inj
    {field other : String × Value}
    {leftRest rightRest : List Char}
    (values :
      Delimits leftRest →
      Delimits rightRest →
      field.2.json .canonical ++ leftRest =
        other.2.json .canonical ++ rightRest →
      field.2.Same other.2 ∧ leftRest = rightRest)
    (leftEnds : Delimits leftRest)
    (rightEnds : Delimits rightRest)
    (same : fieldJson field ++ leftRest = fieldJson other ++ rightRest) :
    (field.1 = other.1 ∧ field.2.Same other.2) ∧ leftRest = rightRest := by
  unfold fieldJson at same
  rw [List.append_assoc, List.append_assoc] at same
  obtain ⟨sameName, sameText⟩ := Text.jsonString_append_inj same
  obtain ⟨sameValue, sameRest⟩ :=
    values leftEnds rightEnds (List.cons.inj sameText).2
  exact ⟨⟨sameName, sameValue⟩, sameRest⟩

/-- What a text begins with tells the JSON value that it is the text of. -/
theorem IsJson.same_of_json_append
    {left : Value}
    (leftIsJson : left.IsJson)
    {right : Value}
    (rightIsJson : right.IsJson)
    {leftRest rightRest : List Char}
    (leftEnds : Delimits leftRest)
    (rightEnds : Delimits rightRest)
    (same :
      left.json .canonical ++ leftRest =
        right.json .canonical ++ rightRest) :
    left.Same right ∧ leftRest = rightRest := by
  induction leftIsJson generalizing right leftRest rightRest with
  | scalar value =>
      cases rightIsJson with
      | scalar other =>
          obtain ⟨sameScalar, sameRest⟩ :=
            Scalar.json_append_inj leftEnds rightEnds same
          exact ⟨.scalar sameScalar, sameRest⟩
      | list _ =>
          exact absurd same (value.json_append_ne (by decide) rfl _ _)
      | map _ _ =>
          exact absurd same (value.json_append_ne (by decide) rfl _ _)
  | @list items each inductionHypothesis =>
      cases rightIsJson with
      | scalar other =>
          exact absurd same.symm (other.json_append_ne (by decide) rfl _ _)
      | @list others othersEach =>
          rw [json_list, json_list] at same
          simp only [List.cons_append, List.append_assoc, List.nil_append,
            List.cons.injEq, true_and] at same
          obtain ⟨sameItems, sameRest⟩ :=
            joined_append_inj rfl (by decide) json_append_ne
              (fun item member other otherMember _ _ =>
                inductionHypothesis item member (othersEach other otherMember))
              same
          exact ⟨.list sameItems, sameRest⟩
      | map _ _ =>
          exact absurd (List.cons.inj same).1 (by decide)
  | @map fields distinct each inductionHypothesis =>
      cases rightIsJson with
      | scalar other =>
          exact absurd same.symm (other.json_append_ne (by decide) rfl _ _)
      | list _ =>
          exact absurd (List.cons.inj same).1 (by decide)
      | @map others othersDistinct othersEach =>
          rw [json_ofFields, json_ofFields] at same
          simp only [List.cons_append, List.append_assoc, List.nil_append,
            List.cons.injEq, true_and] at same
          obtain ⟨sameFields, sameRest⟩ :=
            joined_append_inj rfl (by decide) fieldJson_append_ne
              (fun field member other otherMember _ _ =>
                fieldJson_append_inj
                  (inductionHypothesis field (mem_sortedFields.mp member)
                    (othersEach other (mem_sortedFields.mp otherMember))))
              same
          exact ⟨(forall₂_sortedFields_iff distinct othersDistinct).mp
            sameFields, sameRest⟩

/-- The same JSON values are written the same. -/
theorem IsJson.json_eq_of_same
    {left : Value}
    (leftIsJson : left.IsJson)
    {right : Value}
    (rightIsJson : right.IsJson)
    (same : left.Same right) :
    left.json .canonical = right.json .canonical := by
  induction leftIsJson generalizing right with
  | scalar value =>
      cases same with
      | scalar sameScalar =>
          exact Scalar.json_eq_of_same sameScalar
  | @list items each inductionHypothesis =>
      cases rightIsJson with
      | scalar other =>
          nomatch same
      | @list others othersEach =>
          obtain _ | sameItems | _ := same
          have written :
              items.map (·.json .canonical) =
                others.map (·.json .canonical) :=
            map_eq_of_forall₂ sameItems fun item member other otherMember =>
              inductionHypothesis item member (othersEach other otherMember)
          rw [json_list, json_list, written]
      | map _ _ =>
          nomatch same
  | @map fields distinct each inductionHypothesis =>
      cases rightIsJson with
      | scalar other =>
          nomatch same
      | list _ =>
          nomatch same
      | @map others othersDistinct othersEach =>
          have sameFields :=
            (forall₂_sortedFields_iff distinct othersDistinct).mpr same
          have written :
              (sortedFields fields).map fieldJson =
                (sortedFields others).map fieldJson := by
            refine map_eq_of_forall₂ sameFields ?_
            rintro field member other otherMember ⟨sameName, sameValue⟩
            have sameText :=
              inductionHypothesis field (mem_sortedFields.mp member)
                (othersEach other (mem_sortedFields.mp otherMember)) sameValue
            rw [fieldJson, fieldJson, sameName, sameText]
          rw [json_ofFields, json_ofFields, written]

/-- A JSON value is the same as itself. -/
theorem IsJson.same_self
    {value : Value}
    (isJson : value.IsJson) :
    value.Same value :=
  (isJson.same_of_json_append isJson delimits_nil delimits_nil rfl).1

/-- The order of its fields does not make a map another one. -/
theorem IsJson.same_of_perm
    {fields others : Fields}
    (distinct : (fields.map Prod.fst).Nodup)
    (each : ∀ field ∈ fields, field.2.IsJson)
    (permuted : fields.Perm others) :
    (ofFields fields).Same (ofFields others) := by
  refine same_ofFields_iff.mpr
    ⟨fun name => (permuted.map Prod.fst).mem_iff, ?_⟩
  intro name value other member otherMember
  rw [eq_of_mem_fields distinct member (permuted.mem_iff.mpr otherMember)]
  exact (each (name, other) (permuted.mem_iff.mpr otherMember)).same_self

/--
JSON values have the same canonical text exactly when they are the same value,
where the order of keys does not count.
-/
theorem canonicalJson_eq_iff
    {left right : Value}
    (leftIsJson : left.IsJson)
    (rightIsJson : right.IsJson) :
    left.canonicalJson = right.canonicalJson ↔ left.Same right := by
  unfold canonicalJson
  rw [String.ofList_inj]
  constructor
  · intro same
    have sameEnded :
        left.json .canonical ++ [] = right.json .canonical ++ [] := by
      rw [same]
    exact (leftIsJson.same_of_json_append rightIsJson delimits_nil
      delimits_nil sameEnded).1
  · exact leftIsJson.json_eq_of_same rightIsJson

end Value

namespace Sample

/-- Fields with numbers of every kind, and a text beyond the first sixteen bits. -/
def fields : Fields :=
  [("text", .text "\"𝄞\""),
    ("numbers", .list [.integer 1, .boolean true, .double .nan]),
    ("nothing", .null)]

theorem fields_distinct : (fields.map Prod.fst).Nodup := by
  decide

theorem fields_isJson : ∀ field ∈ fields, field.2.IsJson := by
  have numbers :
      ∀ item ∈ [Value.integer 1, .boolean true, .double .nan],
        item.IsJson := by
    intro item member
    simp only [List.mem_cons, List.not_mem_nil, or_false] at member
    rcases member with rfl | rfl | rfl <;> exact .scalar _
  intro field member
  simp only [fields, List.mem_cons, List.not_mem_nil, or_false] at member
  rcases member with rfl | rfl | rfl
  · exact .scalar _
  · exact .list numbers
  · exact .scalar _

end Sample

/-- Fields in another order make up the same map, and its canonical text is the same. -/
theorem Value.canonicalJson_eq_iff_sample :
    (Value.ofFields Sample.fields).IsJson ∧
      (Value.ofFields Sample.fields.reverse).IsJson ∧
      (Value.ofFields Sample.fields).Same
        (Value.ofFields Sample.fields.reverse) ∧
      (Value.ofFields Sample.fields).canonicalJson =
        (Value.ofFields Sample.fields.reverse).canonicalJson := by
  have permuted : Sample.fields.Perm Sample.fields.reverse :=
    (List.reverse_perm _).symm
  have isJson : (Value.ofFields Sample.fields).IsJson :=
    .map Sample.fields_distinct Sample.fields_isJson
  have reversed : (Value.ofFields Sample.fields.reverse).IsJson := by
    refine .map ((permuted.map Prod.fst).nodup_iff.mp Sample.fields_distinct) ?_
    exact fun field member =>
      Sample.fields_isJson field (permuted.mem_iff.mpr member)
  have same :=
    IsJson.same_of_perm Sample.fields_distinct Sample.fields_isJson permuted
  exact ⟨isJson, reversed, same,
    (canonicalJson_eq_iff isJson reversed).mpr same⟩

end FleetConfig
