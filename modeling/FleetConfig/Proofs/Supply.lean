import FleetConfig.Proofs.Schema
import FleetConfig.Rule.Supply

/-!
# Lists that are supplied with identifiers

The items of a list are read one after the other, and each may take some of the
identifiers that are handed out.  Only those that are taken matter: supplies that
agree on them are as good as one another, and what is read tells them apart from the
others if each item does.
-/

namespace FleetConfig

/-- No turn leaves the supply as it is. -/
theorem IdSupply.after_zero
    (supply : IdSupply) :
    supply.after 0 = supply := by
  simp [after]

theorem IdSupply.after_after
    (supply : IdSupply)
    (turns more : Nat) :
    (supply.after turns).after more = supply.after (turns + more) := by
  simp [after, Nat.add_assoc]

/-- Two supplies hand out the same identifiers in as many turns. -/
def IdSupply.AgreeFor
    (supply other : IdSupply)
    (turns : Nat) :
    Prop :=
  ∀ turn < turns, supply.id turn = other.id turn

/-- Supplies agree for some turns and more if they agree for these and then for the others. -/
theorem IdSupply.agreeFor_add_iff
    {supply other : IdSupply}
    {turns more : Nat} :
    supply.AgreeFor other (turns + more) ↔
      supply.AgreeFor other turns ∧
        (supply.after turns).AgreeFor (other.after turns) more := by
  constructor
  · intro agree
    exact ⟨fun turn below => agree turn (by omega),
      fun turn below => agree (turns + turn) (by omega)⟩
  · rintro ⟨now, later⟩ turn below
    by_cases early : turn < turns
    · exact now turn early
    · have same := later (turn - turns) (by omega)
      dsimp only [after] at same
      rwa [Nat.add_sub_of_le (by omega)] at same

/--
Two supplies repeat an identifier in the same turns.  So they do if all identifiers
of each of them are different.
-/
def IdSupply.RepeatsLike
    (supply other : IdSupply)
    (taken : Nat) :
    Prop :=
  ∀ turn < taken, ∀ later < taken,
    supply.id turn = supply.id later ↔ other.id turn = other.id later

/-- What follows some turns repeats like what follows them in the other supply. -/
theorem IdSupply.RepeatsLike.after
    {supply other : IdSupply}
    {first taken total : Nat}
    (alike : supply.RepeatsLike other total)
    (within : first + taken ≤ total) :
    (supply.after first).RepeatsLike (other.after first) taken :=
  fun turn below later laterBelow =>
    alike (first + turn) (by omega) (first + later) (by omega)

namespace Schema

variable {α : Type} {read : Value → Checked α} {entries : Entries} {name : String}

/-- Read items that stand from a position on, each with what those before it leave of the supply. -/
def suppliedItems
    (read : IdSupply → Value → Checked α)
    (taken : Value → Nat)
    (supply : IdSupply)
    (position : Nat) :
    List Value → List (Checked α)
  | [] =>
      []
  | document :: rest =>
      (read supply document).under (.item position) ::
        suppliedItems read taken (supply.after (taken document)) (position + 1) rest

theorem itemsFrom_eq_suppliedItems
    (supply : IdSupply)
    (position : Nat)
    (documents : List Value) :
    itemsFrom read position documents =
      suppliedItems (fun _ => read) (fun _ => 0) supply position documents := by
  induction documents generalizing supply position with
  | nil =>
      rfl
  | cons document rest inductionHypothesis =>
      rw [itemsFrom, inductionHypothesis (supply.after 0)]
      rfl

/-- Documents are read as values one after the other, each with what is left of the supply. -/
inductive ReadInTurn
    (read : IdSupply → Value → Checked α)
    (taken : Value → Nat) :
    IdSupply → List Value → List α → Prop where
  | nil
      {supply : IdSupply} :
      ReadInTurn read taken supply [] []
  | cons
      {supply : IdSupply}
      {document : Value}
      {value : α}
      {documents : List Value}
      {values : List α}
      (first : read supply document = .valid value)
      (rest : ReadInTurn read taken (supply.after (taken document)) documents values) :
      ReadInTurn read taken supply (document :: documents) (value :: values)

section Supplied

variable {supplied : IdSupply → Value → Checked α}
  {taken : Value → Nat}
  {supply : IdSupply}
  {position : Nat}
  {documents : List Value}
  {values : List α}

theorem sequence_suppliedItems_eq_valid_iff :
    Checked.sequence (suppliedItems supplied taken supply position documents) =
        .valid values ↔
      ReadInTurn supplied taken supply documents values := by
  rw [Checked.sequence_eq_valid_iff]
  constructor
  · intro shape
    induction documents generalizing supply position values with
    | nil =>
        rw [List.map_eq_nil_iff.mp shape.symm]
        exact .nil
    | cons document rest inductionHypothesis =>
        obtain ⟨value, others, rfl, first, others⟩ :=
          List.map_eq_cons_iff.mp shape.symm
        exact .cons (Checked.under_eq_valid_iff.mp first.symm)
          (inductionHypothesis others.symm)
  · intro inTurn
    induction inTurn generalizing position with
    | nil =>
        rfl
    | cons first _ inductionHypothesis =>
        rw [suppliedItems, inductionHypothesis, List.map_cons,
          Checked.under_eq_valid_iff.mpr first]

/-- Read a list of items, each with what those before it leave of the supply. -/
def suppliedList
    (read : IdSupply → Value → Checked α)
    (taken : Value → Nat)
    (supply : IdSupply)
    (document : Value) :
    Checked (List α) :=
  (items document).andThen fun documents =>
    .sequence (suppliedItems read taken supply 0 documents)

theorem suppliedList_eq_valid_iff
    {document : Value} :
    suppliedList supplied taken supply document = .valid values ↔
      ∃ documents,
        document = .list documents ∧
          ReadInTurn supplied taken supply documents values := by
  unfold suppliedList
  rw [Checked.andThen_eq_valid_iff]
  simp only [items_eq_valid_iff, sequence_suppliedItems_eq_valid_iff]

namespace ReadInTurn

/-- Every value was read from a document of the list. -/
theorem exists_of_mem
    (inTurn : ReadInTurn supplied taken supply documents values)
    {value : α}
    (member : value ∈ values) :
    ∃ document ∈ documents, ∃ supply, supplied supply document = .valid value := by
  induction inTurn with
  | nil =>
      contradiction
  | @cons supply document _ _ _ first _ inductionHypothesis =>
      rcases List.mem_cons.mp member with rfl | inRest
      · exact ⟨document, List.mem_cons_self, supply, first⟩
      · obtain ⟨other, otherMember, isRead⟩ := inductionHypothesis inRest
        exact ⟨other, List.mem_cons_of_mem document otherMember, isRead⟩

/-- Written values are read again if each one is, whatever is handed out. -/
theorem map
    {written : α → Value}
    {kept : α → α}
    (each :
      ∀ value ∈ values, ∀ supply, supplied supply (written value) = .valid (kept value)) :
    ReadInTurn supplied taken supply (values.map written) (values.map kept) := by
  induction values generalizing supply with
  | nil =>
      exact .nil
  | cons value rest inductionHypothesis =>
      exact .cons (each value List.mem_cons_self supply)
        (inductionHypothesis fun other member =>
          each other (List.mem_cons_of_mem value member))

/--
Two readings agree on the identifiers that were taken if they do so document by
document.
-/
theorem agreeFor
    {other : IdSupply}
    {others : List α}
    {related : α → α → Prop}
    (each :
      ∀ {document supply other value otherValue},
        supplied supply document = .valid value →
        supplied other document = .valid otherValue →
        related value otherValue →
        supply.AgreeFor other (taken document))
    (inTurn : ReadInTurn supplied taken supply documents values)
    (otherInTurn : ReadInTurn supplied taken other documents others)
    (areRelated : List.Forall₂ related values others) :
    supply.AgreeFor other (documents.foldr (taken · + ·) 0) := by
  induction inTurn generalizing other others with
  | nil =>
      intro turn below
      contradiction
  | cons first _ inductionHypothesis =>
      obtain _ | ⟨otherFirst, otherRest⟩ := otherInTurn
      obtain _ | ⟨here, later⟩ := areRelated
      rw [List.foldr_cons, IdSupply.agreeFor_add_iff]
      exact ⟨each first otherFirst here, inductionHypothesis otherRest later⟩

end ReadInTurn

/-- How many identifiers the items of a list take. -/
def takenByList (taken : Value → Nat) : Value → Nat
  | .list documents =>
      documents.foldr (taken · + ·) 0
  | _ =>
      0

/-- How many identifiers the items of a list under a name take. -/
def takenByField
    (taken : Value → Nat)
    (name : String) :
    Value → Nat
  | .map entries =>
      ((Entries.find? entries (.text name)).map (takenByList taken)).getD 0
  | _ =>
      0

theorem takenByField_map
    (taken : Value → Nat)
    (entries : Entries)
    (name : String) :
    takenByField taken name (.map entries) =
      ((entries.find? (.text name)).map (takenByList taken)).getD 0 :=
  rfl

theorem takenByField_eq
    (taken : Value → Nat)
    (name : String)
    (document : Value) :
    takenByField taken name document =
      match document with
      | .map entries =>
          match Entries.find? entries (.text name) with
          | some (.list documents) =>
              documents.foldr (taken · + ·) 0
          | _ =>
              0
      | _ =>
          0 := by
  cases document with
  | map entries =>
      rw [takenByField_map]
      dsimp only
      cases Entries.find? entries (.text name) with
      | some written =>
          cases written <;> rfl
      | none =>
          rfl
  | scalar value =>
      rfl
  | list items =>
      rfl

/-- Items are read the same if the supplies agree on the identifiers that are taken. -/
theorem suppliedItems_congr
    (each :
      ∀ {document supply other},
        IdSupply.AgreeFor supply other (taken document) →
        supplied supply document = supplied other document)
    {other : IdSupply}
    (agree : supply.AgreeFor other (documents.foldr (taken · + ·) 0)) :
    suppliedItems supplied taken supply position documents =
      suppliedItems supplied taken other position documents := by
  induction documents generalizing supply other position with
  | nil =>
      rfl
  | cons document rest inductionHypothesis =>
      rw [List.foldr_cons, IdSupply.agreeFor_add_iff] at agree
      rw [suppliedItems, suppliedItems, each agree.1, inductionHypothesis agree.2]

/-- A list under a name is read the same if the supplies agree on what is taken. -/
theorem withDefault_suppliedList_congr
    (each :
      ∀ {document supply other},
        IdSupply.AgreeFor supply other (taken document) →
        supplied supply document = supplied other document)
    {other : IdSupply}
    (agree : supply.AgreeFor other (takenByField taken name (.map entries))) :
    withDefault entries name [] (suppliedList supplied taken supply) =
      withDefault entries name [] (suppliedList supplied taken other) := by
  rw [takenByField_map] at agree
  unfold withDefault
  cases found : entries.find? (.text name) with
  | none =>
      rfl
  | some document =>
      rw [found] at agree
      cases document with
      | list documents =>
          have same :
              suppliedItems supplied taken supply 0 documents =
                suppliedItems supplied taken other 0 documents :=
            suppliedItems_congr each agree
          simp only [suppliedList, items, Checked.andThen_valid, same]
      | scalar value =>
          rfl
      | map written =>
          rfl

/-- Two readings of a list under a name agree on what was taken if they do so item by item. -/
theorem agreeFor_of_withDefault
    {other : IdSupply}
    {others : List α}
    {related : α → α → Prop}
    (each :
      ∀ {document supply other value otherValue},
        supplied supply document = .valid value →
        supplied other document = .valid otherValue →
        related value otherValue →
        supply.AgreeFor other (taken document))
    (isRead :
      withDefault entries name [] (suppliedList supplied taken supply) =
        .valid values)
    (otherRead :
      withDefault entries name [] (suppliedList supplied taken other) =
        .valid others)
    (areRelated : List.Forall₂ related values others) :
    supply.AgreeFor other (takenByField taken name (.map entries)) := by
  rw [takenByField_map]
  rw [withDefault_eq_valid_iff] at isRead otherRead
  cases found : entries.find? (.text name) with
  | none =>
      intro turn below
      contradiction
  | some document =>
      simp only [found, Option.some.injEq, exists_eq_left', reduceCtorEq,
        false_and, or_false] at isRead otherRead
      obtain ⟨documents, rfl, inTurn⟩ := suppliedList_eq_valid_iff.mp isRead
      obtain ⟨_, ⟨⟩, otherInTurn⟩ := suppliedList_eq_valid_iff.mp otherRead
      exact inTurn.agreeFor each otherInTurn areRelated

end Supplied

/-- A list is read item by item. -/
theorem list_eq_valid_iff
    {document : Value}
    {values : List α} :
    list read document = .valid values ↔
      ∃ documents,
        document = .list documents ∧
          ReadInTurn (fun _ => read) (fun _ => 0) (.numbered 0) documents values := by
  have isSupplied :
      list read document = suppliedList (fun _ => read) (fun _ => 0) (.numbered 0) document := by
    simp only [list, suppliedList, itemsFrom_eq_suppliedItems (.numbered 0)]
  rw [isSupplied, suppliedList_eq_valid_iff]

/-- A list of texts is read again. -/
theorem list_text_texts
    (items : List String) :
    list text (Value.texts items) = .valid items := by
  have inTurn :
      ReadInTurn (fun _ => text) (fun _ => 0) (.numbered 0) (items.map .text) (items.map id) :=
    .map fun _ _ _ => rfl
  rw [List.map_id] at inTurn
  exact list_eq_valid_iff.mpr ⟨items.map .text, rfl, inTurn⟩

end Schema

end FleetConfig
