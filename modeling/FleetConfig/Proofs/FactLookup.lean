import FleetConfig.Proofs.FactPath

/-!
# Where segments lead

A key leads from a map to the value under it.  An index leads from a list to an item,
counted from the first one or, if it is negative, from the last one.  A segment that
leads to no part of a value misses, with one exception: an index that counts back past
the first item of a list overshoots, which is a fault and not an absence.

Following segments settles which of these happens first.  Paths that were read hold no
negative index, and so nothing overshoots on them.
-/

namespace FleetConfig.Segment

/-- A segment leads from a value to a part of it. -/
inductive Leads : Value → Segment → Value → Prop where
  | key
      {entries : Entries}
      {name : String}
      {part : Value}
      (found : Entries.find? entries (.text name) = some part) :
      Leads (.map entries) (.key name) part
  | fromFirst
      {items : List Value}
      {position : Nat}
      {part : Value}
      (found : items[position]? = some part) :
      Leads (.list items) (.index position) part
  | fromLast
      {items : List Value}
      {position : Nat}
      {part : Value}
      (found : items.reverse[position]? = some part) :
      Leads (.list items) (.index (-(position + 1))) part

/--
A segment misses: its key is not there, its index lies behind the last item, or the
value is of the wrong kind.
-/
inductive Misses : Value → Segment → Prop where
  | missingKey
      {entries : Entries}
      {name : String}
      (notFound : Entries.find? entries (.text name) = none) :
      Misses (.map entries) (.key name)
  | afterLast
      {items : List Value}
      {position : Nat}
      (after : items.length ≤ position) :
      Misses (.list items) (.index position)
  | keyOutsideMap
      {value : Value}
      {name : String}
      (noMap : ∀ entries, value ≠ .map entries) :
      Misses value (.key name)
  | indexOutsideList
      {value : Value}
      {number : Int}
      (noList : ∀ items, value ≠ .list items) :
      Misses value (.index number)

/-- A segment overshoots: its index counts back past the first item of a list. -/
inductive Overshoots : Value → Segment → Prop where
  | beforeFirst
      {items : List Value}
      {position : Nat}
      (before : items.length ≤ position) :
      Overshoots (.list items) (.index (-(position + 1)))

/-- Segments lead from a value to another, one after the other. -/
inductive LeadOn : Value → List Segment → Value → Prop where
  | here
      (value : Value) :
      LeadOn value [] value
  | onward
      {value part last : Value}
      {segment : Segment}
      {rest : List Segment}
      (leads : Leads value segment part)
      (leadOn : LeadOn part rest last) :
      LeadOn value (segment :: rest) last

/-- Segments lead up to one of them that ends the way in the given manner. -/
def EndAt
    (ends : Value → Segment → Prop)
    (facts : Value)
    (segments : List Segment) :
    Prop :=
  ∃ walked segment rest value,
    segments = walked ++ segment :: rest ∧
      LeadOn facts walked value ∧
      ends value segment

variable {value part : Value} {segment : Segment} {segments : List Segment}

/-! ## One step -/

/-- An index leads to an item, lies behind the last item, or counts back too far. -/
theorem index_cases
    (items : List Value)
    (number : Int) :
    (∃ part, Leads (.list items) (.index number) part) ∨
      Misses (.list items) (.index number) ∨
      Overshoots (.list items) (.index number) := by
  cases number with
  | ofNat position =>
      by_cases inside : position < items.length
      · exact .inl ⟨_, .fromFirst (List.getElem?_eq_getElem inside)⟩
      · exact .inr (.inl (.afterLast (Nat.le_of_not_lt inside)))
  | negSucc position =>
      rw [Int.negSucc_eq]
      by_cases inside : position < items.length
      · have insideReverse : position < items.reverse.length := by
          simpa using inside
        exact .inl ⟨_, .fromLast (List.getElem?_eq_getElem insideReverse)⟩
      · exact .inr (.inr (.beforeFirst (Nat.le_of_not_lt inside)))

/-- A segment leads to a part, misses or overshoots. -/
theorem step_cases
    (value : Value)
    (segment : Segment) :
    (∃ part, Leads value segment part) ∨
      Misses value segment ∨
      Overshoots value segment := by
  cases segment with
  | key name =>
      cases value with
      | map entries =>
          cases found : Entries.find? entries (.text name) with
          | some part =>
              exact .inl ⟨part, .key found⟩
          | none =>
              exact .inr (.inl (.missingKey found))
      | scalar scalar =>
          exact .inr (.inl (.keyOutsideMap nofun))
      | list items =>
          exact .inr (.inl (.keyOutsideMap nofun))
  | index number =>
      cases value with
      | list items =>
          exact index_cases items number
      | scalar scalar =>
          exact .inr (.inl (.indexOutsideList nofun))
      | map entries =>
          exact .inr (.inl (.indexOutsideList nofun))

/-- An index from the first item picks the item there. -/
theorem pick_fromFirst
    (items : List Value)
    (position : Nat) :
    pick items position = items[position]?.elim .absent .found := by
  have notNegative : ¬ (position : Int) < 0 := by
    omega
  simp only [pick, notNegative, if_false, Int.toNat_natCast]
  cases items[position]? <;> rfl

/-- An index from the last item picks the item there, unless it counts back too far. -/
theorem pick_fromLast
    (items : List Value)
    (position : Nat) :
    pick items (-(position + 1)) =
      items.reverse[position]?.elim .beforeFirst .found := by
  have negative : -((position : Int) + 1) < 0 := by
    omega
  simp only [pick, negative, if_true]
  by_cases inside : position < items.length
  · have notBefore : ¬ -((position : Int) + 1) + items.length < 0 := by
      omega
    have place :
        (-((position : Int) + 1) + items.length).toNat =
          items.length - 1 - position := by
      omega
    have item :
        items[items.length - 1 - position]? =
          some items[items.length - 1 - position] :=
      List.getElem?_eq_getElem (by omega)
    simp only [notBefore, if_false, place, List.getElem?_reverse inside, item,
      Option.elim_some]
  · have before : -((position : Int) + 1) + items.length < 0 := by
      omega
    have noItem : items.reverse[position]? = none := by
      simpa using inside
    simp only [before, if_true, noItem, Option.elim_none]

theorem step_of_leads
    (leads : Leads value segment part) :
    step value segment = .found part := by
  cases leads with
  | key found =>
      simp [step, found]
  | fromFirst found =>
      simp [step, pick_fromFirst, found]
  | fromLast found =>
      simp only [step, pick_fromLast, found, Option.elim_some]

theorem step_of_misses
    (misses : Misses value segment) :
    step value segment = .absent := by
  cases misses with
  | missingKey notFound =>
      simp [step, notFound]
  | afterLast after =>
      simp [step, pick_fromFirst, after]
  | keyOutsideMap noMap =>
      cases value with
      | map entries =>
          exact absurd rfl (noMap entries)
      | scalar scalar =>
          rfl
      | list items =>
          rfl
  | indexOutsideList noList =>
      cases value with
      | list items =>
          exact absurd rfl (noList items)
      | scalar scalar =>
          rfl
      | map entries =>
          rfl

theorem step_of_overshoots
    (overshoots : Overshoots value segment) :
    step value segment = .beforeFirst := by
  cases overshoots with
  | @beforeFirst items position before =>
      have noItem : items.reverse[position]? = none := by
        simpa using before
      simp only [step, pick_fromLast, noItem, Option.elim_none]

/-! ## A whole way -/

/-- Segments lead on to a value, or one of them misses or overshoots. -/
theorem resolve_cases
    (facts : Value)
    (segments : List Segment) :
    (∃ value, LeadOn facts segments value) ∨
      EndAt Misses facts segments ∨
      EndAt Overshoots facts segments := by
  induction segments generalizing facts with
  | nil =>
      exact .inl ⟨facts, .here facts⟩
  | cons segment rest inductionHypothesis =>
      have later :
          ∀ {ends : Value → Segment → Prop} {part : Value},
            Leads facts segment part →
            EndAt ends part rest →
            EndAt ends facts (segment :: rest) := by
        rintro ends part leads ⟨walked, last, after, value, rfl, leadOn, holds⟩
        exact ⟨segment :: walked, last, after, value, rfl,
          .onward leads leadOn, holds⟩
      rcases step_cases facts segment with ⟨part, leads⟩ | misses | overshoots
      · rcases inductionHypothesis part with
          ⟨value, leadOn⟩ | misses | overshoots
        · exact .inl ⟨value, .onward leads leadOn⟩
        · exact .inr (.inl (later leads misses))
        · exact .inr (.inr (later leads overshoots))
      · exact .inr (.inl ⟨[], segment, rest, facts, rfl, .here facts, misses⟩)
      · exact .inr (.inr ⟨[], segment, rest, facts, rfl, .here facts, overshoots⟩)

/-- Where the first segments lead, the other ones are followed from. -/
theorem resolve_append
    {facts : Value}
    {walked : List Segment}
    (leadOn : LeadOn facts walked value)
    (rest : List Segment) :
    resolve facts (walked ++ rest) = resolve value rest := by
  induction leadOn with
  | here value =>
      rfl
  | onward leads leadOn inductionHypothesis =>
      simp only [List.cons_append, resolve, step_of_leads leads,
        inductionHypothesis]

theorem resolve_of_leadOn
    {facts : Value}
    (leadOn : LeadOn facts segments value) :
    resolve facts segments = .found value := by
  have followed := resolve_append leadOn []
  rwa [List.append_nil] at followed

/-- A segment that does not lead on decides where the way ends. -/
theorem resolve_of_endAt
    {facts : Value}
    {ends : Value → Segment → Prop}
    {outcome : Lookup}
    (decided :
      ∀ value segment, ends value segment → step value segment = outcome)
    (noPart : ∀ part, outcome ≠ .found part)
    (endAt : EndAt ends facts segments) :
    resolve facts segments = outcome := by
  obtain ⟨walked, segment, rest, value, rfl, leadOn, holds⟩ := endAt
  rw [resolve_append leadOn, resolve, decided value segment holds]
  cases outcome with
  | found part =>
      exact absurd rfl (noPart part)
  | absent =>
      rfl
  | beforeFirst =>
      rfl

theorem resolve_of_misses
    {facts : Value}
    (misses : EndAt Misses facts segments) :
    resolve facts segments = .absent :=
  resolve_of_endAt (fun _ _ => step_of_misses) nofun misses

theorem resolve_of_overshoots
    {facts : Value}
    (overshoots : EndAt Overshoots facts segments) :
    resolve facts segments = .beforeFirst :=
  resolve_of_endAt (fun _ _ => step_of_overshoots) nofun overshoots

section Outcome

variable {facts : Value}

theorem resolve_eq_found_iff :
    resolve facts segments = .found value ↔ LeadOn facts segments value := by
  refine ⟨fun followed => ?_, resolve_of_leadOn⟩
  rcases resolve_cases facts segments with ⟨other, leadOn⟩ | misses | overshoots
  · rw [resolve_of_leadOn leadOn] at followed
    cases followed
    exact leadOn
  · simp [resolve_of_misses misses] at followed
  · simp [resolve_of_overshoots overshoots] at followed

theorem resolve_eq_absent_iff :
    resolve facts segments = .absent ↔ EndAt Misses facts segments := by
  refine ⟨fun followed => ?_, resolve_of_misses⟩
  rcases resolve_cases facts segments with ⟨other, leadOn⟩ | misses | overshoots
  · simp [resolve_of_leadOn leadOn] at followed
  · exact misses
  · simp [resolve_of_overshoots overshoots] at followed

theorem resolve_eq_beforeFirst_iff :
    resolve facts segments = .beforeFirst ↔ EndAt Overshoots facts segments := by
  refine ⟨fun followed => ?_, resolve_of_overshoots⟩
  rcases resolve_cases facts segments with ⟨other, leadOn⟩ | misses | overshoots
  · simp [resolve_of_leadOn leadOn] at followed
  · simp [resolve_of_misses misses] at followed
  · exact overshoots

end Outcome

/-! ## Indexes from the first item -/

/-- Only a negative index overshoots. -/
theorem resolve_ne_beforeFirst
    (facts : Value)
    (nonnegative : ∀ number, .index number ∈ segments → 0 ≤ number) :
    resolve facts segments ≠ .beforeFirst := by
  rw [ne_eq, resolve_eq_beforeFirst_iff]
  rintro ⟨walked, segment, rest, value, rfl, leadOn, overshoots⟩
  cases overshoots with
  | @beforeFirst items position before =>
      have fromFirst := nonnegative (-(position + 1)) (by simp)
      omega

theorem Denotes.nonnegative
    {inside : List Char}
    {number : Int}
    (denotes : Denotes inside number) :
    0 ≤ number := by
  cases denotes with
  | digits =>
      exact Int.natCast_nonneg _

/-- The indexes of a path count from the first item. -/
theorem IsPath.index_nonnegative
    {isFirst : Bool}
    {path : List Char}
    (isPath : IsPath isFirst segments path) :
    ∀ number, .index number ∈ segments → 0 ≤ number := by
  induction isPath with
  | done =>
      exact nofun
  | key _ _ _ inductionHypothesis =>
      intro number member
      exact inductionHypothesis number (by simpa using member)
  | index denotes _ inductionHypothesis =>
      intro number member
      rcases List.mem_cons.mp member with same | inRest
      · cases same
        exact denotes.nonnegative
      · exact inductionHypothesis number inRest

/--
Following segments gives the value that they lead on to, nothing if one of them misses
first, and a fault if one of them overshoots first; there is no fourth case.  Without
negative indexes, and so on every path that was read, there is no fault.
-/
theorem resolve_settled
    (facts : Value)
    (segments : List Segment) :
    (∀ value, resolve facts segments = .found value ↔ LeadOn facts segments value) ∧
      (resolve facts segments = .absent ↔ EndAt Misses facts segments) ∧
      (resolve facts segments = .beforeFirst ↔ EndAt Overshoots facts segments) ∧
      ((∀ number, .index number ∈ segments → 0 ≤ number) →
        resolve facts segments ≠ .beforeFirst) ∧
      ∀ path, parse path = .ok segments → resolve facts segments ≠ .beforeFirst :=
  ⟨fun _ => resolve_eq_found_iff,
    resolve_eq_absent_iff,
    resolve_eq_beforeFirst_iff,
    resolve_ne_beforeFirst facts,
    fun _ isRead =>
      resolve_ne_beforeFirst facts
        (parse_eq_ok_iff.mp isRead).2.index_nonnegative⟩

/-- The facts of a node with two disks. -/
def Sample.disks : Value :=
  .map [(.text "disks", .list [.text "sda", .text "sdb"])]

/-- The second disk and the last but one, no third disk, and no way back past the first. -/
theorem resolve_settled_sample :
    LeadOn Sample.disks [.key "disks", .index 1] (.text "sdb") ∧
      LeadOn Sample.disks [.key "disks", .index (-2)] (.text "sda") ∧
      EndAt Misses Sample.disks [.key "disks", .index 2, .key "size"] ∧
      EndAt Overshoots Sample.disks [.key "disks", .index (-3)] ∧
      (∀ number, Segment.index number ∈ [.key "disks", .index 2] → 0 ≤ number) ∧
      resolve Sample.disks [.key "disks", .index 2] ≠ .beforeFirst ∧
      parse "disks[ 1 ]" = .ok [.key "disks", .index 1] ∧
      resolve Sample.disks [.key "disks", .index 1] ≠ .beforeFirst := by
  have nonnegative :
      ∀ number, Segment.index number ∈ [.key "disks", .index 2] → 0 ≤ number := by
    simp
  have isRead : parse "disks[ 1 ]" = .ok [.key "disks", .index 1] := by
    decide +kernel
  exact ⟨((resolve_settled _ _).1 _).mp rfl, ((resolve_settled _ _).1 _).mp rfl,
    (resolve_settled _ _).2.1.mp rfl, (resolve_settled _ _).2.2.1.mp rfl,
    nonnegative, (resolve_settled _ _).2.2.2.1 nonnegative,
    isRead, (resolve_settled _ _).2.2.2.2 _ isRead⟩

/-- An index that counts back past the only item is a fault, and the one before is not. -/
theorem resolve_negativeIndex :
    resolve (.list [.text "sda"]) [.index (-2)] = .beforeFirst ∧
      resolve (.list [.text "sda"]) [.index (-1)] = .found (.text "sda") :=
  ⟨rfl, rfl⟩

end FleetConfig.Segment
