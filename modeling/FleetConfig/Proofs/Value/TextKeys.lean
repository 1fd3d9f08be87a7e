import FleetConfig.Group.Set
import FleetConfig.Value.Json

/-!
# Values with text keys

The maps in a payload usually have texts for keys, at every level.  The keys of
such a payload can always be put in order.
-/

namespace FleetConfig

namespace Scalar

/-- Whether a key is a text. -/
def isText : Scalar → Bool
  | .text _ =>
      true
  | _ =>
      false

end Scalar

namespace Value

mutual

/-- Whether the keys of every map in a value are texts. -/
def hasTextKeys : Value → Bool
  | .scalar _ =>
      true
  | .list items =>
      haveTextKeys items
  | .map entries =>
      entriesHaveTextKeys entries

/-- Whether the keys of every map in the items are texts. -/
def haveTextKeys : List Value → Bool
  | [] =>
      true
  | item :: rest =>
      hasTextKeys item && haveTextKeys rest

/-- Whether the keys of the entries and of every map in their values are texts. -/
def entriesHaveTextKeys : List (Scalar × Value) → Bool
  | [] =>
      true
  | (key, value) :: rest =>
      key.isText && hasTextKeys value && entriesHaveTextKeys rest

end

theorem isText_of_entriesHaveTextKeys
    {entries : Entries}
    (textKeys : entriesHaveTextKeys entries = true) :
    ∀ key ∈ entries.map Prod.fst, key.isText = true := by
  induction entries with
  | nil =>
      simp
  | cons entry rest inductionHypothesis =>
      simp only [entriesHaveTextKeys, Bool.and_eq_true] at textKeys
      intro key member
      rcases List.mem_cons.mp member with isFirst | inRest
      · rw [isFirst]
        exact textKeys.1.1
      · exact inductionHypothesis textKeys.2 key inRest

theorem keysComparable_of_isText
    {left right : Scalar}
    (leftText : left.isText = true)
    (rightText : right.isText = true) :
    left.keysComparable right = true := by
  cases left with
  | text left =>
      cases right with
      | text right =>
          rfl
      | _ =>
          contradiction
  | _ =>
      contradiction

theorem keysSortable_of_isText
    {keys : List Scalar}
    (texts : ∀ key ∈ keys, key.isText = true) :
    keysSortable keys = true := by
  induction keys with
  | nil =>
      rfl
  | cons key rest inductionHypothesis =>
      simp only [keysSortable, Bool.and_eq_true, List.all_eq_true]
      have keyText := texts key List.mem_cons_self
      constructor
      · intro other member
        exact keysComparable_of_isText keyText
          (texts other (List.mem_cons_of_mem key member))
      · exact inductionHypothesis fun other member =>
          texts other (List.mem_cons_of_mem key member)

mutual

/-- A value with text keys can be written with sorted keys. -/
theorem isSortable_of_hasTextKeys :
    ∀ value : Value,
      hasTextKeys value = true →
      isSortable value = true
  | .scalar _, _ =>
      rfl
  | .list items, textKeys =>
      areSortable_of_haveTextKeys items textKeys
  | .map entries, textKeys => by
      rw [isSortable, Bool.and_eq_true]
      exact ⟨keysSortable_of_isText
          (isText_of_entriesHaveTextKeys textKeys),
        areEntriesSortable_of_haveTextKeys entries textKeys⟩

/-- Items with text keys can be written with sorted keys. -/
theorem areSortable_of_haveTextKeys :
    ∀ items : List Value,
      haveTextKeys items = true →
      areSortable items = true
  | [], _ =>
      rfl
  | item :: rest, textKeys => by
      rw [haveTextKeys, Bool.and_eq_true] at textKeys
      rw [areSortable, Bool.and_eq_true]
      exact ⟨isSortable_of_hasTextKeys item textKeys.1,
        areSortable_of_haveTextKeys rest textKeys.2⟩

/-- Entries with text keys can be written with sorted keys. -/
theorem areEntriesSortable_of_haveTextKeys :
    ∀ entries : List (Scalar × Value),
      entriesHaveTextKeys entries = true →
      areEntriesSortable entries = true
  | [], _ =>
      rfl
  | (key, value) :: rest, textKeys => by
      rw [entriesHaveTextKeys, Bool.and_eq_true, Bool.and_eq_true] at textKeys
      rw [areEntriesSortable, Bool.and_eq_true]
      exact ⟨isSortable_of_hasTextKeys value textKeys.1.2,
        areEntriesSortable_of_haveTextKeys rest textKeys.2⟩

end

end Value

namespace Group

/-- The maps in what a group sets have texts for keys, at every level. -/
structure HasTextKeys (group : Group) : Prop where
  parameters : ∀ entry ∈ group.parameters, entry.2.hasTextKeys = true
  globals : ∀ entry ∈ group.globals, entry.2.hasTextKeys = true

end Group

end FleetConfig
