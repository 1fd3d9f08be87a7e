import FleetConfig.Proofs.Value.Lookup
import FleetConfig.Schema
import Mathlib.Data.List.Forall2

/-!
# What documents are read as

A document is read as a value exactly when each of its parts is read as the part
of the value.  Fields that were written are found again under their names.
-/

namespace FleetConfig

namespace Checked

variable {α β : Type} {checked : Checked α} {value : α} {other : β}

theorem map_eq_valid_iff
    {function : α → β} :
    checked.map function = .valid other ↔
      ∃ value, checked = .valid value ∧ function value = other := by
  cases checked with
  | valid value =>
      simp [map]
  | invalid complaints =>
      simp [map]

theorem map_valid
    (function : α → β)
    (value : α) :
    (Checked.valid value).map function = .valid (function value) :=
  rfl

theorem seq_eq_valid_iff
    {function : Checked (α → β)} :
    function <*> checked = .valid other ↔
      ∃ applied value,
        function = .valid applied ∧
          checked = .valid value ∧
          applied value = other := by
  change function.apply checked = .valid other ↔ _
  cases function with
  | valid applied =>
      simp [apply, map_eq_valid_iff]
  | invalid complaints =>
      simp [apply]

theorem functor_map_eq_valid_iff
    {function : α → β} :
    function <$> checked = .valid other ↔
      ∃ value, checked = .valid value ∧ function value = other := by
  change Checked.valid function <*> checked = .valid other ↔ _
  rw [seq_eq_valid_iff]
  simp

theorem andThen_eq_valid_iff
    {next : α → Checked β} :
    checked.andThen next = .valid other ↔
      ∃ value, checked = .valid value ∧ next value = .valid other := by
  cases checked with
  | valid value =>
      simp [andThen]
  | invalid complaints =>
      simp [andThen]

@[simp] theorem andThen_valid
    (next : α → Checked β) :
    (Checked.valid value).andThen next = next value :=
  rfl

@[simp] theorem under_eq_valid_iff
    {step : Step} :
    checked.under step = .valid value ↔ checked = .valid value := by
  cases checked with
  | valid value =>
      simp [under]
  | invalid complaints =>
      simp [under]

@[simp] theorem ofExcept_eq_valid_iff
    {ε : Type}
    {refuse : ε → Refusal}
    {result : Except ε α} :
    ofExcept refuse result = .valid value ↔ result = .ok value := by
  cases result with
  | ok value =>
      simp [ofExcept]
  | error reason =>
      simp [ofExcept, defective]

@[simp] theorem defective_ne_valid
    {defect : Defect} :
    defective defect ≠ .valid value := by
  simp [defective]

/-- Collecting succeeds exactly if everything was read. -/
theorem sequence_eq_valid_iff
    {parts : List (Checked α)}
    {values : List α} :
    sequence parts = .valid values ↔ parts = values.map .valid := by
  induction parts generalizing values with
  | nil =>
      cases values with
      | nil =>
          simp [sequence]
      | cons value values =>
          simp [sequence]
  | cons first rest inductionHypothesis =>
      change (List.cons <$> first) <*> sequence rest = .valid values ↔ _
      rw [seq_eq_valid_iff]
      constructor
      · rintro ⟨applied, others, firstRead, restRead, rfl⟩
        obtain ⟨value, rfl, rfl⟩ := functor_map_eq_valid_iff.mp firstRead
        rw [inductionHypothesis.mp restRead]
        rfl
      · intro shape
        obtain ⟨value, others, rfl, rfl, restShape⟩ :=
          List.map_eq_cons_iff.mp shape.symm
        exact ⟨List.cons value, others, rfl,
          inductionHypothesis.mpr restShape.symm, rfl⟩

end Checked

namespace Schema

variable {α : Type}
  {entries : Entries}
  {name : String}
  {read : Value → Checked α}
  {value default : α}

theorem record_eq_valid_iff
    {document : Value} :
    record document = .valid entries ↔ document = .map entries := by
  cases document <;> simp [record]

theorem items_eq_valid_iff
    {document : Value}
    {documents : List Value} :
    items document = .valid documents ↔ document = .list documents := by
  cases document <;> simp [items]

theorem text_eq_valid_iff
    {document : Value}
    {found : String} :
    text document = .valid found ↔ document = .text found := by
  cases document with
  | scalar value =>
      cases value <;> simp [text, Value.text]
  | list items =>
      simp [text, Value.text]
  | map entries =>
      simp [text, Value.text]

/-- A required field is there and is read. -/
theorem required_eq_valid_iff :
    required entries name read = .valid value ↔
      ∃ document,
        entries.find? (.text name) = some document ∧
          read document = .valid value := by
  unfold required
  cases entries.find? (.text name) with
  | some document =>
      simp
  | none =>
      simp

/-- A field with a default is read if it is there, and has the default if it is not. -/
theorem withDefault_eq_valid_iff :
    withDefault entries name default read = .valid value ↔
      (∃ document,
          entries.find? (.text name) = some document ∧
            read document = .valid value) ∨
        (entries.find? (.text name) = none ∧ default = value) := by
  unfold withDefault
  cases entries.find? (.text name) with
  | some document =>
      simp
  | none =>
      simp

/-- What holds of everything that is read and of the default holds of the value of a field. -/
@[elab_as_elim]
theorem of_withDefault
    {holds : α → Prop}
    (isRead : withDefault entries name default read = .valid value)
    (ofDocument :
      ∀ document,
        entries.find? (.text name) = some document →
        read document = .valid value →
        holds value)
    (ofDefault : holds default) :
    holds value := by
  rcases withDefault_eq_valid_iff.mp isRead with
      ⟨document, found, valid⟩ | ⟨_, rfl⟩
  · exact ofDocument document found valid
  · exact ofDefault

/-- A written field is read whether it is required or not. -/
theorem required_ofFields
    {written : Fields}
    {document : Value}
    (found : written.find? name = some document)
    (isRead : read document = .valid value) :
    required (written.map fun field => (.text field.1, field.2)) name read =
      .valid value := by
  rw [← Entries.find?_ofFields] at found
  exact required_eq_valid_iff.mpr ⟨document, found, isRead⟩

theorem withDefault_ofFields
    {written : Fields}
    {document : Value}
    (found : written.find? name = some document)
    (isRead : read document = .valid value) :
    withDefault (written.map fun field => (.text field.1, field.2)) name default
        read =
      .valid value := by
  rw [← Entries.find?_ofFields] at found
  exact withDefault_eq_valid_iff.mpr (.inl ⟨document, found, isRead⟩)

/-- A text or `null` is read again. -/
theorem optional_optionalText
    {read : Value → Checked String}
    (each : ∀ item, read (.text item) = .valid item)
    (item? : Option String) :
    optional read (.optionalText item?) = .valid item? := by
  cases item? with
  | some item =>
      change (read (.text item)).map some = .valid (some item)
      rw [each]
      rfl
  | none =>
      rfl

theorem fieldKey_eq_valid_iff
    {entry : Scalar × Value}
    {field : String × Value} :
    fieldKey entry = .valid field ↔ entry = (.text field.1, field.2) := by
  obtain ⟨key, value⟩ := entry
  obtain ⟨name, other⟩ := field
  cases key <;> simp [fieldKey]

/-- Fields are read from the map that has them, and from no other value. -/
theorem fields_eq_valid_iff
    {document : Value}
    {found : Fields} :
    fields document = .valid found ↔ document = .ofFields found := by
  cases document with
  | map entries =>
      change Checked.sequence (entries.map fieldKey) = .valid found ↔ _
      rw [Checked.sequence_eq_valid_iff, Value.ofFields]
      simp only [Value.map.injEq]
      induction entries generalizing found with
      | nil =>
          cases found with
          | nil =>
              simp
          | cons field others =>
              simp
      | cons entry rest inductionHypothesis =>
          cases found with
          | nil =>
              simp
          | cons field others =>
              simp [fieldKey_eq_valid_iff, inductionHypothesis]
  | scalar value =>
      simp [fields, Value.ofFields]
  | list items =>
      simp [fields, Value.ofFields]

end Schema

end FleetConfig
