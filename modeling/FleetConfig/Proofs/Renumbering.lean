import FleetConfig.Proofs.Rule.Reading

/-!
# Reading with other identifiers

One document is read twice, with different identifiers to hand out.  A change of what
is read can be made part by part, and what is told of both readings is that they are
related: both give values that are related, or both complain, and their complaints
are alike.
-/

namespace FleetConfig

/--
Complaints are the same, but for a traded identifier that was handed out more than
once to the rules of a group.
-/
inductive Complaint.Alike
    (traded : String → String → Prop) :
    Complaint → Complaint → Prop where
  | same
      (complaint : Complaint) :
      Alike traded complaint complaint
  | repeated
      (place : List Step)
      {id other : String}
      (isTraded : traded id other)
      (group : String) :
      Alike traded ⟨place, .refused (.duplicateRule id group)⟩
        ⟨place, .refused (.duplicateRule other group)⟩

theorem Complaint.alike_refl
    {traded : String → String → Prop}
    (complaints : List Complaint) :
    List.Forall₂ (Complaint.Alike traded) complaints complaints :=
  List.forall₂_same.mpr fun complaint _ => .same complaint

theorem Complaint.Alike.mono
    {traded wider : String → String → Prop}
    {complaint other : Complaint}
    (alike : Complaint.Alike traded complaint other)
    (widens : ∀ {id other}, traded id other → wider id other) :
    Complaint.Alike wider complaint other := by
  cases alike with
  | same =>
      exact .same _
  | repeated place isTraded group =>
      exact .repeated place (widens isTraded) group

namespace Checked

section Change

variable {α β γ : Type}

/-- A change of an argument is a change of the function. -/
theorem seq_map
    (function : Checked (β → γ))
    (checked : Checked α)
    (change : α → β) :
    function <*> checked.map change =
      function.map (fun apply value => apply (change value)) <*> checked := by
  cases function <;> cases checked <;> rfl

theorem map_seq
    (function : Checked (α → β))
    (checked : Checked α)
    (change : β → γ) :
    (function <*> checked).map change =
      function.map (fun apply value => change (apply value)) <*> checked := by
  cases function <;> cases checked <;> rfl

theorem map_functor_map
    (function : α → β)
    (checked : Checked α)
    (change : β → γ) :
    (function <$> checked).map change =
      (fun value => change (function value)) <$> checked := by
  cases checked <;> rfl

theorem functor_map_map
    (function : β → γ)
    (checked : Checked α)
    (change : α → β) :
    function <$> checked.map change =
      (fun value => function (change value)) <$> checked := by
  cases checked <;> rfl

theorem map_andThen
    (checked : Checked α)
    (next : α → Checked β)
    (change : β → γ) :
    (checked.andThen next).map change =
      checked.andThen fun value => (next value).map change := by
  cases checked <;> rfl

theorem under_map
    (checked : Checked α)
    (step : Step)
    (change : α → β) :
    (checked.map change).under step = (checked.under step).map change := by
  cases checked <;> rfl

/-- Values that are changed one by one are collected as the list of the changed values. -/
theorem sequence_map
    (parts : List (Checked α))
    (change : α → β) :
    sequence (parts.map (map change)) = (sequence parts).map (List.map change) := by
  induction parts with
  | nil =>
      rfl
  | cons first rest inductionHypothesis =>
      rw [List.map_cons, sequence, sequence, inductionHypothesis]
      cases first <;> cases sequence rest <;> rfl

end Change

variable {α β : Type}
  {traded : String → String → Prop}
  {related : α → β → Prop}

/-- Both readings give related values, or both give complaints that are alike. -/
inductive Related
    (traded : String → String → Prop)
    (related : α → β → Prop) :
    Checked α → Checked β → Prop where
  | valid
      {value : α}
      {other : β}
      (values : related value other) :
      Related traded related (.valid value) (.valid other)
  | invalid
      {complaints others : List Complaint}
      (alike : List.Forall₂ (Complaint.Alike traded) complaints others) :
      Related traded related (.invalid complaints) (.invalid others)

namespace Related

variable {checked : Checked α} {other : Checked β}

theorem refl
    {related : α → α → Prop}
    (reflexive : ∀ value, related value value)
    (checked : Checked α) :
    Related traded related checked checked := by
  cases checked with
  | valid value =>
      exact .valid (reflexive value)
  | invalid complaints =>
      exact .invalid (Complaint.alike_refl complaints)

theorem exists_valid
    {value : α}
    (given : Related traded related (.valid value) other) :
    ∃ otherValue, other = .valid otherValue ∧ related value otherValue := by
  cases given with
  | valid values =>
      exact ⟨_, rfl, values⟩

theorem exists_invalid
    {complaints : List Complaint}
    (given : Related traded related (.invalid complaints) other) :
    ∃ others,
      other = .invalid others ∧
        List.Forall₂ (Complaint.Alike traded) complaints others := by
  cases given with
  | invalid alike =>
      exact ⟨_, rfl, alike⟩

theorem imp
    {wider : String → String → Prop}
    {weaker : α → β → Prop}
    (given : Related traded related checked other)
    (widens : ∀ {id other}, traded id other → wider id other)
    (weakens : ∀ {value other}, related value other → weaker value other) :
    Related wider weaker checked other := by
  cases given with
  | valid values =>
      exact .valid (weakens values)
  | invalid alike =>
      exact .invalid (alike.imp fun _ _ alike => alike.mono widens)

theorem complaints
    (given : Related traded related checked other) :
    List.Forall₂ (Complaint.Alike traded) checked.complaints other.complaints := by
  cases given with
  | valid values =>
      exact .nil
  | invalid alike =>
      exact alike

theorem under
    (given : Related traded related checked other)
    (step : Step) :
    Related traded related (checked.under step) (other.under step) := by
  cases given with
  | valid values =>
      exact .valid values
  | invalid alike =>
      refine .invalid ?_
      rw [List.forall₂_map_left_iff, List.forall₂_map_right_iff]
      refine alike.imp fun complaint otherComplaint alike => ?_
      cases alike with
      | same =>
          exact .same _
      | repeated place isTraded group =>
          exact .repeated (step :: place) isTraded group

/-- What is put together from related parts is related. -/
theorem both
    {γ δ ε ζ : Type}
    {relatedSeconds : γ → δ → Prop}
    {relatedResults : ε → ζ → Prop}
    {second : Checked γ}
    {otherSecond : Checked δ}
    {function : α → γ → ε}
    {otherFunction : β → δ → ζ}
    (keeps :
      ∀ {value other second otherSecond},
        related value other →
        relatedSeconds second otherSecond →
        relatedResults (function value second)
          (otherFunction other otherSecond))
    (given : Related traded related checked other)
    (seconds : Related traded relatedSeconds second otherSecond) :
    Related traded relatedResults (function <$> checked <*> second)
      (otherFunction <$> other <*> otherSecond) := by
  have rest := seconds.complaints
  cases given with
  | valid values =>
      cases seconds with
      | valid secondValues =>
          exact .valid (keeps values secondValues)
      | invalid alike =>
          exact .invalid alike
  | invalid alike =>
      exact .invalid (List.rel_append alike rest)

/-- What is collected from related parts is related item by item. -/
theorem sequence
    {parts : List (Checked α)}
    {others : List (Checked β)}
    (each : List.Forall₂ (Related traded related) parts others) :
    Related traded (List.Forall₂ related) (Checked.sequence parts)
      (Checked.sequence others) := by
  induction each with
  | nil =>
      exact .valid .nil
  | cons first _ inductionHypothesis =>
      exact both .cons first inductionHypothesis

end Related

end Checked

end FleetConfig
