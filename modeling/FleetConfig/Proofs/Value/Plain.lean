import FleetConfig.Proofs.Value.CanonicalJson
import FleetConfig.Proofs.Value.Lookup
import FleetConfig.Proofs.Value.TextKeys
import FleetConfig.Value.Plain

/-!
# Plain values

Writing a value out plainly always gives a JSON value with finite numbers only,
and such a value is written out as itself.  So what was written once is written
the same from then on.
-/

namespace FleetConfig

/-- What leaves every item of a list as it is leaves the list as it is. -/
theorem map_eq_self
    {α : Type}
    {function : α → α}
    {items : List α}
    (each : ∀ item ∈ items, function item = item) :
    items.map function = items :=
  (List.map_congr_left each).trans items.map_id

namespace Fields

theorem mem_put
    {fields : Fields}
    {key : String}
    {value : Value}
    {field : String × Value}
    (member : field ∈ fields.put key value) :
    field ∈ fields ∨ field = (key, value) := by
  induction fields with
  | nil =>
      exact .inr (List.mem_singleton.mp member)
  | cons first rest inductionHypothesis =>
      by_cases same : first.1 = key
      · simp only [put, same, ↓reduceIte] at member
        rcases List.mem_cons.mp member with isPut | inRest
        · exact .inr isPut
        · exact .inl (List.mem_cons_of_mem first inRest)
      · simp only [put, same, ↓reduceIte] at member
        rcases List.mem_cons.mp member with isFirst | inRest
        · exact .inl (isFirst ▸ List.mem_cons_self)
        · exact (inductionHypothesis inRest).imp
            (List.mem_cons_of_mem first) id

/-- Setting a field in place leaves the keys as they are. -/
theorem map_fst_put_of_mem
    {fields : Fields}
    {key : String}
    (member : key ∈ fields.map Prod.fst)
    (value : Value) :
    (fields.put key value).map Prod.fst = fields.map Prod.fst := by
  induction fields with
  | nil =>
      contradiction
  | cons first rest inductionHypothesis =>
      by_cases same : first.1 = key
      · simp [put, same]
      · have inRest : key ∈ rest.map Prod.fst :=
          (List.mem_cons.mp member).resolve_left (Ne.symm same)
        simp [put, same, inductionHypothesis inRest]

theorem nodup_put
    {fields : Fields}
    (distinct : (fields.map Prod.fst).Nodup)
    (key : String)
    (value : Value) :
    ((fields.put key value).map Prod.fst).Nodup := by
  by_cases member : key ∈ fields.map Prod.fst
  · rw [map_fst_put_of_mem member]
    exact distinct
  · rw [put_of_not_mem member, List.map_append]
    refine List.nodup_append.mpr
      ⟨distinct, List.nodup_singleton key, fun name listed other single same => ?_⟩
    have isKey : other = key := List.mem_singleton.mp single
    rw [same, isKey] at listed
    exact member listed

/-- However fields are written one over the other, no key stands twice in the end. -/
theorem nodup_overlay
    {base : Fields}
    (distinct : (base.map Prod.fst).Nodup)
    (above : Fields) :
    ((base.overlay above).map Prod.fst).Nodup := by
  induction above generalizing base with
  | nil =>
      exact distinct
  | cons field rest inductionHypothesis =>
      exact inductionHypothesis (nodup_put distinct field.1 field.2)

theorem mem_overlay
    {base above : Fields}
    {field : String × Value}
    (member : field ∈ base.overlay above) :
    field ∈ base ∨ field ∈ above := by
  induction above generalizing base with
  | nil =>
      exact .inl member
  | cons first rest inductionHypothesis =>
      rcases inductionHypothesis member with inPut | inRest
      · rcases mem_put inPut with inBase | isFirst
        · exact .inl inBase
        · exact .inr (isFirst ▸ List.mem_cons_self)
      · exact .inr (List.mem_cons_of_mem first inRest)

end Fields

/-- Entries with text keys are written one over the other like fields. -/
theorem Entries.ofList_texts
    (fields : Fields) :
    Entries.ofList (fields.map fun field => (.text field.1, field.2)) =
      (Fields.overlay [] fields).map fun field => (.text field.1, field.2) := by
  have put :
      ∀ (base : Fields) (field : String × Value),
        Entries.put (base.map fun field => (.text field.1, field.2))
            (.text field.1) field.2 =
          (base.put field.1 field.2).map fun field => (.text field.1, field.2) := by
    intro base field
    induction base with
    | nil =>
        rfl
    | cons first rest inductionHypothesis =>
        by_cases same : first.1 = field.1
        · simp [Entries.put, Fields.put, same]
        · simp [Entries.put, Fields.put, same, inductionHypothesis]
  have writtenOver :
      ∀ base : Fields,
        (fields.map fun field => (Scalar.text field.1, field.2)).foldl
            (fun entries entry => Entries.put entries entry.1 entry.2)
            (base.map fun field => (.text field.1, field.2)) =
          (base.overlay fields).map fun field => (.text field.1, field.2) := by
    induction fields with
    | nil =>
        intro base
        rfl
    | cons field rest inductionHypothesis =>
        intro base
        rw [List.map_cons, List.foldl_cons]
        dsimp only
        rw [put, inductionHypothesis]
        rfl
  exact writtenOver []

/-- Whether a scalar is no number that is not finite. -/
def Scalar.isFinite : Scalar → Bool
  | .double value =>
      value.isFinite
  | _ =>
      true

theorem Scalar.isFinite_plain
    (scalar : Scalar) :
    scalar.plain.isFinite = true := by
  cases scalar with
  | double value =>
      cases finite : value.isFinite with
      | true =>
          simp [plain, isFinite, finite]
      | false =>
          simp [plain, isFinite, finite]
  | _ =>
      rfl

theorem Scalar.plain_eq_self
    {scalar : Scalar}
    (finite : scalar.isFinite = true) :
    scalar.plain = scalar := by
  cases scalar with
  | double value =>
      simp only [isFinite] at finite
      simp [plain, finite]
  | _ =>
      rfl

namespace Value

mutual

/-- Whether every number in a value is finite. -/
def isFinite : Value → Bool
  | .scalar value =>
      value.isFinite
  | .list items =>
      areFinite items
  | .map entries =>
      entriesAreFinite entries

/-- Whether every number in the items is finite. -/
def areFinite : List Value → Bool
  | [] =>
      true
  | item :: rest =>
      isFinite item && areFinite rest

/-- Whether every number in the values of the entries is finite. -/
def entriesAreFinite : List (Scalar × Value) → Bool
  | [] =>
      true
  | (_, value) :: rest =>
      isFinite value && entriesAreFinite rest

end

theorem areFinite_iff
    {items : List Value} :
    areFinite items = true ↔ ∀ item ∈ items, item.isFinite = true := by
  induction items with
  | nil =>
      simp [areFinite]
  | cons item rest inductionHypothesis =>
      simp [areFinite, inductionHypothesis]

theorem entriesAreFinite_iff
    {entries : Entries} :
    entriesAreFinite entries = true ↔
      ∀ entry ∈ entries, entry.2.isFinite = true := by
  induction entries with
  | nil =>
      simp [entriesAreFinite]
  | cons entry rest inductionHypothesis =>
      obtain ⟨key, value⟩ := entry
      simp [entriesAreFinite, inductionHypothesis]

theorem isFinite_ofFields_iff
    {fields : Fields} :
    (ofFields fields).isFinite = true ↔
      ∀ field ∈ fields, field.2.isFinite = true := by
  rw [ofFields_eq, isFinite, entriesAreFinite_iff, List.forall_mem_map]

theorem plainItems_eq
    (items : List Value) :
    plainItems items = items.map plain := by
  induction items with
  | nil =>
      rfl
  | cons item rest inductionHypothesis =>
      rw [plainItems, inductionHypothesis]
      rfl

/-- A map is written field by field, and later fields replace earlier ones. -/
theorem plain_map
    (entries : Entries) :
    (Value.map entries).plain =
      ofFields (Fields.overlay []
        (entries.map fun entry => (entry.1.keyText, entry.2.plain))) := by
  have written :
      plainEntries entries =
        (entries.map fun entry => (entry.1.keyText, entry.2.plain)).map
          fun field => (.text field.1, field.2) := by
    induction entries with
    | nil =>
        rfl
    | cons entry rest inductionHypothesis =>
        rw [plainEntries, inductionHypothesis]
        rfl
  rw [plain, written, Entries.ofList_texts]
  rfl

/-- Fields without repeated keys are written one by one. -/
theorem plain_ofFields
    {fields : Fields}
    (distinct : (fields.map Prod.fst).Nodup) :
    (ofFields fields).plain = ofFields (plainFields fields) := by
  have written :
      (fields.map fun field => (Scalar.text field.1, field.2)).map
          (fun entry => (entry.1.keyText, entry.2.plain)) =
        plainFields fields := by
    rw [List.map_map]
    rfl
  have keys : (plainFields fields).map Prod.fst = fields.map Prod.fst := by
    rw [plainFields, List.map_map]
    rfl
  rw [ofFields_eq, plain_map, written, Fields.overlay_nil (keys ▸ distinct)]

/-- A JSON value with finite numbers only. -/
structure IsPlain (value : Value) : Prop where
  isJson : value.IsJson
  isFinite : value.isFinite = true

theorem isPlain_list
    {items : List Value}
    (each : ∀ item ∈ items, item.IsPlain) :
    (Value.list items).IsPlain :=
  ⟨.list fun item member => (each item member).isJson,
    areFinite_iff.mpr fun item member => (each item member).isFinite⟩

theorem isPlain_ofFields
    {fields : Fields}
    (distinct : (fields.map Prod.fst).Nodup)
    (each : ∀ field ∈ fields, field.2.IsPlain) :
    (ofFields fields).IsPlain :=
  ⟨.map distinct fun field member => (each field member).isJson,
    isFinite_ofFields_iff.mpr fun field member => (each field member).isFinite⟩

/--
A property holds of all plain values if it holds of the finite scalars, and of lists
and maps as soon as it holds of their parts.
-/
@[elab_as_elim]
theorem IsPlain.induction
    {motive : Value → Prop}
    (scalar :
      ∀ scalar : Scalar, scalar.isFinite = true → motive (.scalar scalar))
    (list :
      ∀ items : List Value,
        (∀ item ∈ items, item.IsPlain) →
        (∀ item ∈ items, motive item) →
        motive (.list items))
    (map :
      ∀ fields : Fields,
        (fields.map Prod.fst).Nodup →
        (∀ field ∈ fields, field.2.IsPlain) →
        (∀ field ∈ fields, motive field.2) →
        motive (.ofFields fields))
    {value : Value}
    (isPlain : value.IsPlain) :
    motive value := by
  obtain ⟨isJson, finite⟩ := isPlain
  induction isJson with
  | scalar value =>
      exact scalar value finite
  | @list items each inductionHypothesis =>
      have eachFinite := areFinite_iff.mp finite
      exact list items
        (fun item member => ⟨each item member, eachFinite item member⟩)
        fun item member =>
          inductionHypothesis item member (eachFinite item member)
  | @map fields distinct each inductionHypothesis =>
      have eachFinite := isFinite_ofFields_iff.mp finite
      exact map fields distinct
        (fun field member => ⟨each field member, eachFinite field member⟩)
        fun field member =>
          inductionHypothesis field member (eachFinite field member)

mutual

/-- What is written plainly is a JSON value with finite numbers only. -/
theorem isPlain_plain :
    ∀ value : Value,
      value.plain.IsPlain
  | .scalar value =>
      ⟨.scalar value.plain, value.isFinite_plain⟩
  | .list items => by
      rw [plain, plainItems_eq]
      apply isPlain_list
      intro item member
      obtain ⟨original, listed, rfl⟩ := List.mem_map.mp member
      exact isPlain_plain_of_mem items original listed
  | .map entries => by
      rw [plain_map]
      have noKeys : (([] : Fields).map Prod.fst).Nodup := List.nodup_nil
      apply isPlain_ofFields (Fields.nodup_overlay noKeys _)
      intro field member
      have written := (Fields.mem_overlay member).resolve_left List.not_mem_nil
      obtain ⟨entry, listed, rfl⟩ := List.mem_map.mp written
      exact isPlain_plain_of_mem_entries entries entry listed

theorem isPlain_plain_of_mem :
    ∀ items : List Value,
    ∀ item ∈ items,
      item.plain.IsPlain
  | first :: rest, item, member => by
      rcases List.mem_cons.mp member with isFirst | inRest
      · rw [isFirst]
        exact isPlain_plain first
      · exact isPlain_plain_of_mem rest item inRest

theorem isPlain_plain_of_mem_entries :
    ∀ entries : List (Scalar × Value),
    ∀ entry ∈ entries,
      entry.2.plain.IsPlain
  | (key, value) :: rest, entry, member => by
      rcases List.mem_cons.mp member with isFirst | inRest
      · rw [isFirst]
        exact isPlain_plain value
      · exact isPlain_plain_of_mem_entries rest entry inRest

end

theorem ofFields_injective :
    Function.Injective ofFields := by
  intro left right same
  rw [ofFields_eq, ofFields_eq, Value.map.injEq] at same
  refine List.map_injective_iff.mpr ?_ same
  intro field other sameField
  rw [Prod.mk.injEq, Scalar.text.injEq] at sameField
  exact Prod.ext sameField.1 sameField.2

theorem isJson_ofFields_iff
    {fields : Fields} :
    (ofFields fields).IsJson ↔
      (fields.map Prod.fst).Nodup ∧ ∀ field ∈ fields, field.2.IsJson := by
  constructor
  · intro isJson
    generalize shape : ofFields fields = value at isJson
    cases isJson with
    | scalar scalar =>
        contradiction
    | list each =>
        contradiction
    | map distinct each =>
        rw [ofFields_injective shape]
        exact ⟨distinct, each⟩
  · rintro ⟨distinct, each⟩
    exact .map distinct each

/-- A JSON value with finite numbers only is written as itself. -/
theorem IsJson.plain_eq_self
    {value : Value}
    (isJson : value.IsJson)
    (finite : value.isFinite = true) :
    value.plain = value := by
  refine IsPlain.induction ?scalar ?list ?map ⟨isJson, finite⟩
  case scalar =>
    intro scalar finite
    rw [plain, Scalar.plain_eq_self finite]
  case list =>
    intro items _ inductionHypothesis
    rw [plain, plainItems_eq, map_eq_self inductionHypothesis]
  case map =>
    intro fields distinct _ inductionHypothesis
    have same : plainFields fields = fields :=
      map_eq_self fun field member =>
        Prod.ext rfl (inductionHypothesis field member)
    rw [plain_ofFields distinct, same]

/-- The fields of a JSON value with finite numbers only are written as they are. -/
theorem IsJson.plainFields_eq_self
    {fields : Fields}
    (isJson : (ofFields fields).IsJson)
    (finite : (ofFields fields).isFinite = true) :
    plainFields fields = fields := by
  have each := isFinite_ofFields_iff.mp finite
  exact map_eq_self fun field member =>
    Prod.ext rfl
      (((isJson_ofFields_iff.mp isJson).2 field member).plain_eq_self
        (each field member))

/-- What was written plainly is written the same again. -/
theorem plain_plain
    (value : Value) :
    value.plain.plain = value.plain :=
  (isPlain_plain value).isJson.plain_eq_self (isPlain_plain value).isFinite

theorem haveTextKeys_iff
    {items : List Value} :
    haveTextKeys items = true ↔ ∀ item ∈ items, item.hasTextKeys = true := by
  induction items with
  | nil =>
      simp [haveTextKeys]
  | cons item rest inductionHypothesis =>
      simp [haveTextKeys, inductionHypothesis]

/-- Entries with text keys are fields. -/
theorem entriesHaveTextKeys_iff
    {entries : Entries} :
    entriesHaveTextKeys entries = true ↔
      ∃ fields : Fields,
        entries = fields.map (fun field => (.text field.1, field.2)) ∧
          ∀ field ∈ fields, field.2.hasTextKeys = true := by
  induction entries with
  | nil =>
      simp [entriesHaveTextKeys]
  | cons entry rest inductionHypothesis =>
      obtain ⟨key, value⟩ := entry
      simp only [entriesHaveTextKeys, Bool.and_eq_true, inductionHypothesis]
      constructor
      · rintro ⟨⟨keyText, valueKeys⟩, fields, rfl, each⟩
        cases key with
        | text name =>
            exact ⟨(name, value) :: fields, rfl,
              List.forall_mem_cons.mpr ⟨valueKeys, each⟩⟩
        | _ =>
            contradiction
      · rintro ⟨fields, shape, each⟩
        obtain ⟨field, others, rfl, isFirst, isRest⟩ :=
          List.map_eq_cons_iff.mp shape.symm
        obtain ⟨first, each⟩ := List.forall_mem_cons.mp each
        cases isFirst
        exact ⟨⟨rfl, first⟩, others, isRest.symm, each⟩

theorem hasTextKeys_ofFields_iff
    {fields : Fields} :
    (ofFields fields).hasTextKeys = true ↔
      ∀ field ∈ fields, field.2.hasTextKeys = true := by
  rw [ofFields_eq, hasTextKeys]
  induction fields with
  | nil =>
      simp [entriesHaveTextKeys]
  | cons field rest inductionHypothesis =>
      simp [entriesHaveTextKeys, Scalar.isText, inductionHypothesis]

/-- No key stands twice in any map of a value. -/
inductive WellKeyed : Value → Prop where
  | scalar
      (value : Scalar) :
      WellKeyed (.scalar value)
  | list
      {items : List Value}
      (each : ∀ item ∈ items, WellKeyed item) :
      WellKeyed (.list items)
  | map
      {entries : Entries}
      (distinct :
        entries.Pairwise fun left right => left.1.sameKey right.1 = false)
      (each : ∀ entry ∈ entries, WellKeyed entry.2) :
      WellKeyed (.map entries)

theorem wellKeyed_ofFields
    {fields : Fields}
    (distinct : (fields.map Prod.fst).Nodup)
    (each : ∀ field ∈ fields, field.2.WellKeyed) :
    (ofFields fields).WellKeyed := by
  refine .map ?_ (List.forall_mem_map.mpr each)
  rw [List.pairwise_map]
  refine (List.pairwise_map.mp distinct).imp ?_
  intro left right different
  rw [Scalar.sameKey_text]
  exact decide_eq_false different

namespace WellKeyed

theorem find?
    {entries : Entries}
    {key : Scalar}
    {value : Value}
    (wellKeyed : (Value.map entries).WellKeyed)
    (found : entries.find? key = some value) :
    value.WellKeyed := by
  obtain ⟨entry, listed, rfl⟩ := Option.map_eq_some_iff.mp found
  cases wellKeyed with
  | map _ each =>
      exact each entry (List.mem_of_find?_eq_some listed)

theorem of_mem
    {items : List Value}
    {item : Value}
    (wellKeyed : (Value.list items).WellKeyed)
    (member : item ∈ items) :
    item.WellKeyed := by
  cases wellKeyed with
  | list each =>
      exact each item member

theorem nodup_keys
    {fields : Fields}
    (wellKeyed : (ofFields fields).WellKeyed) :
    (fields.map Prod.fst).Nodup := by
  cases wellKeyed with
  | map distinct _ =>
      rw [List.pairwise_map] at distinct
      refine List.pairwise_map.mpr (distinct.imp ?_)
      intro left right different
      rw [Scalar.sameKey_text] at different
      exact of_decide_eq_false different

/-- A value with text keys that never stand twice is a JSON value. -/
theorem isJson
    {value : Value}
    (wellKeyed : value.WellKeyed)
    (textKeys : value.hasTextKeys = true) :
    value.IsJson := by
  induction wellKeyed with
  | scalar scalar =>
      exact .scalar scalar
  | list _ inductionHypothesis =>
      have each := haveTextKeys_iff.mp textKeys
      exact .list fun item member =>
        inductionHypothesis item member (each item member)
  | map distinct eachWellKeyed inductionHypothesis =>
      obtain ⟨fields, rfl, each⟩ := entriesHaveTextKeys_iff.mp textKeys
      refine .map (nodup_keys (.map distinct eachWellKeyed)) ?_
      intro field member
      exact inductionHypothesis _
        (List.mem_map.mpr ⟨field, member, rfl⟩) (each field member)

end WellKeyed

end Value

end FleetConfig
