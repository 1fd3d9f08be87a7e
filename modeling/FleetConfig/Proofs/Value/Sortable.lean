import FleetConfig.Proofs.Value.TextKeys

/-!
# Values that can be written

A value is written with sorted keys if the keys of each map in it can be compared:
any two of them are both texts or both numbers.  One key alone may be anything.

No text is made of an integer with more than `integerDigitLimit` digits either: making
one breaks down.  The texts of values here know no such limit, so what is said of them
holds of values that keep it.
-/

namespace FleetConfig

/-- Whether an integer keeps the limit for texts of integers, as all other scalars do. -/
def Scalar.isWritable : Scalar → Bool
  | .integer value =>
      (Nat.toDigits 10 value.natAbs).length ≤ integerDigitLimit
  | _ =>
      true

/-- Two keys can be put in order: both are texts, or both are numbers or truth values. -/
def Scalar.Comparable (left right : Scalar) : Prop :=
  (left.isText = true ∧ right.isText = true) ∨
    (left.keyNumber?.isSome = true ∧ right.keyNumber?.isSome = true)

theorem Scalar.keysComparable_iff
    {left right : Scalar} :
    left.keysComparable right = true ↔ left.Comparable right := by
  cases left <;> cases right <;>
    simp [keysComparable, Comparable, isText, keyNumber?]

namespace Value

mutual

/-- Whether every integer in a value, keys included, keeps the limit for texts of integers. -/
def isWritable : Value → Bool
  | .scalar value =>
      value.isWritable
  | .list items =>
      areWritable items
  | .map entries =>
      areEntriesWritable entries

/-- Whether every integer in the items keeps the limit for texts of integers. -/
def areWritable : List Value → Bool
  | [] =>
      true
  | item :: rest =>
      isWritable item && areWritable rest

/-- Whether every integer in the entries keeps the limit for texts of integers. -/
def areEntriesWritable : List (Scalar × Value) → Bool
  | [] =>
      true
  | (key, value) :: rest =>
      key.isWritable && isWritable value && areEntriesWritable rest

end

/-- A value occurs in another: it is that value, or it occurs in an item or under a key. -/
inductive Occurs (value : Value) : Value → Prop where
  | here :
      Occurs value value
  | item
      {item : Value}
      {items : List Value}
      (member : item ∈ items)
      (inside : Occurs value item) :
      Occurs value (.list items)
  | entry
      {entry : Scalar × Value}
      {entries : Entries}
      (member : entry ∈ entries)
      (inside : Occurs value entry.2) :
      Occurs value (.map entries)

/-- In every map that occurs in a value any two keys can be put in order. -/
def ComparableKeys (value : Value) : Prop :=
  ∀ entries,
    (map entries).Occurs value →
    (entries.map Prod.fst).Pairwise Scalar.Comparable

theorem comparableKeys_scalar
    (value : Scalar) :
    (scalar value).ComparableKeys := by
  rintro entries ⟨⟩

theorem comparableKeys_list_iff
    {items : List Value} :
    (list items).ComparableKeys ↔ ∀ item ∈ items, item.ComparableKeys := by
  constructor
  · exact fun comparable item member entries inside =>
      comparable entries (.item member inside)
  · rintro each entries ⟨⟩
    case item item inside member =>
      exact each item member entries inside

theorem comparableKeys_map_iff
    {entries : Entries} :
    (map entries).ComparableKeys ↔
      (entries.map Prod.fst).Pairwise Scalar.Comparable ∧
        ∀ entry ∈ entries, entry.2.ComparableKeys := by
  constructor
  · exact fun comparable =>
      ⟨comparable entries .here, fun entry member others inside =>
        comparable others (.entry member inside)⟩
  · rintro ⟨keys, each⟩ others occurs
    cases occurs with
    | here =>
        exact keys
    | entry member inside =>
        exact each _ member others inside

theorem keysSortable_iff
    {keys : List Scalar} :
    keysSortable keys = true ↔ keys.Pairwise Scalar.Comparable := by
  induction keys with
  | nil =>
      simp [keysSortable]
  | cons key rest inductionHypothesis =>
      simp only [keysSortable, Bool.and_eq_true, List.all_eq_true,
        Scalar.keysComparable_iff, inductionHypothesis, List.pairwise_cons]

mutual

/-- A value can be written with sorted keys exactly if its keys can be put in order. -/
theorem isSortable_iff :
    ∀ value : Value, isSortable value = true ↔ value.ComparableKeys
  | .scalar value =>
      iff_of_true rfl (comparableKeys_scalar value)
  | .list items => by
      rw [isSortable, areSortable_iff, comparableKeys_list_iff]
  | .map entries => by
      rw [isSortable, Bool.and_eq_true, keysSortable_iff, areEntriesSortable_iff,
        comparableKeys_map_iff]

theorem areSortable_iff :
    ∀ items : List Value,
      areSortable items = true ↔ ∀ item ∈ items, item.ComparableKeys
  | [] => by
      simp [areSortable]
  | item :: rest => by
      rw [areSortable, Bool.and_eq_true, isSortable_iff, areSortable_iff,
        List.forall_mem_cons]

theorem areEntriesSortable_iff :
    ∀ entries : Entries,
      areEntriesSortable entries = true ↔
        ∀ entry ∈ entries, entry.2.ComparableKeys
  | [] => by
      simp [areEntriesSortable]
  | (key, value) :: rest => by
      rw [areEntriesSortable, Bool.and_eq_true, isSortable_iff,
        areEntriesSortable_iff, List.forall_mem_cons]

end

end Value

end FleetConfig
