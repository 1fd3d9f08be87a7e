import FleetConfig.Value.Basic

/-!
# Looking up keys

A list of entries in which no key stands twice is a map: looking a key up finds
exactly the entry under it, and the order of the entries does not matter.
-/

namespace FleetConfig

@[simp] theorem Scalar.sameKey_text
    (left right : String) :
    (Scalar.text left).sameKey (.text right) = decide (left = right) := by
  change (Scalar.text left == Scalar.text right) = _
  rw [Bool.beq_eq_decide_eq]
  simp

namespace Entries

variable {κ α : Type} [BEq κ] [LawfulBEq κ]

theorem mem_of_lookup
    {entries : List (κ × α)}
    {key : κ}
    {value : α}
    (found : entries.lookup key = some value) :
    (key, value) ∈ entries := by
  obtain ⟨before, after, shape, _⟩ := List.lookup_eq_some_iff.mp found
  rw [shape]
  simp

theorem lookup_isSome_iff
    {entries : List (κ × α)}
    {key : κ} :
    (entries.lookup key).isSome ↔ key ∈ entries.map Prod.fst := by
  rw [List.lookup_isSome_iff, List.mem_map]
  constructor
  · rintro ⟨entry, member, same⟩
    exact ⟨entry, member, (eq_of_beq same).symm⟩
  · rintro ⟨entry, member, same⟩
    exact ⟨entry, member, beq_iff_eq.mpr same.symm⟩

/-- Without repeated keys every entry is found under its key. -/
theorem lookup_eq_some_iff_mem
    {entries : List (κ × α)}
    (distinct : (entries.map Prod.fst).Nodup)
    {key : κ}
    {value : α} :
    entries.lookup key = some value ↔ (key, value) ∈ entries := by
  constructor
  · exact mem_of_lookup
  · intro member
    obtain ⟨before, after, shape⟩ := List.append_of_mem member
    refine List.lookup_eq_some_iff.mpr ⟨before, after, shape, ?_⟩
    intro entry inBefore
    rw [shape, List.map_append, List.map_cons] at distinct
    have apart := (List.nodup_append.mp distinct).2.2
    have different :=
      apart entry.1 (List.mem_map_of_mem inBefore) key (by simp)
    simpa using different.symm

/-- Without repeated keys the order of the entries does not matter. -/
theorem lookup_eq_of_perm
    {entries others : List (κ × α)}
    (distinct : (entries.map Prod.fst).Nodup)
    (permuted : entries.Perm others)
    (key : κ) :
    entries.lookup key = others.lookup key := by
  have othersDistinct : (others.map Prod.fst).Nodup :=
    (permuted.map Prod.fst).nodup_iff.mp distinct
  apply Option.ext
  intro value
  rw [lookup_eq_some_iff_mem distinct,
    lookup_eq_some_iff_mem othersDistinct]
  exact permuted.mem_iff

/-- A field of a map with text keys is found under its name. -/
theorem find?_ofFields
    (fields : Fields)
    (name : String) :
    find? (fields.map fun field => (.text field.1, field.2)) (.text name) =
      fields.find? name := by
  unfold find? Fields.find?
  induction fields with
  | nil =>
      rfl
  | cons field rest inductionHypothesis =>
      rw [List.map_cons, List.find?_cons, List.lookup_cons, Scalar.sameKey_text]
      by_cases same : field.1 = name
      · simp [same]
      · have different : (name == field.1) = false :=
          beq_false_of_ne (Ne.symm same)
        rw [decide_eq_false same, different]
        exact inductionHypothesis

end Entries

namespace Fields

theorem find?_isSome_iff
    {fields : Fields}
    {key : String} :
    (fields.find? key).isSome ↔ key ∈ fields.map Prod.fst :=
  Entries.lookup_isSome_iff

theorem put_of_not_mem
    {fields : Fields}
    {key : String}
    (fresh : key ∉ fields.map Prod.fst)
    (value : Value) :
    fields.put key value = fields ++ [(key, value)] := by
  induction fields with
  | nil =>
      rfl
  | cons entry rest inductionHypothesis =>
      rw [List.map_cons, List.mem_cons, not_or] at fresh
      simp only [put, Ne.symm fresh.1, ↓reduceIte,
        inductionHypothesis fresh.2, List.cons_append]

/-- Fields laid over others with which they share no key follow them. -/
theorem overlay_of_disjoint
    {base above : Fields}
    (distinct : ((base ++ above).map Prod.fst).Nodup) :
    base.overlay above = base ++ above := by
  induction above generalizing base with
  | nil =>
      simp [overlay]
  | cons entry rest inductionHypothesis =>
      have shifted :
          base ++ entry :: rest = (base ++ [entry]) ++ rest := by
        simp
      rw [shifted] at distinct ⊢
      have fresh : entry.1 ∉ base.map Prod.fst := by
        rw [List.map_append, List.map_append] at distinct
        have apart :=
          (List.nodup_append.mp (List.nodup_append.mp distinct).1).2.2
        intro member
        exact apart entry.1 member entry.1 (by simp) rfl
      rw [← inductionHypothesis distinct]
      simp only [overlay, List.foldl_cons, put_of_not_mem fresh]

/-- Fields without repeated keys, written one after the other, stay as they are. -/
theorem overlay_nil
    {fields : Fields}
    (distinct : (fields.map Prod.fst).Nodup) :
    Fields.overlay [] fields = fields :=
  overlay_of_disjoint distinct

end Fields

end FleetConfig
