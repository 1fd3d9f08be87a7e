import FleetConfig.Proofs.Number.Literal
import FleetConfig.Proofs.Number.Position
import FleetConfig.Proofs.Value.Plain

/-!
# Loose equality is an equivalence

A scalar is compared by its position on the number line, if it denotes a number, and
by its text otherwise.  The two cannot be mixed up, because the text of a finite
number always denotes a number.  So two scalars are alike exactly if they are
compared by the same thing, and lists and maps are alike if their parts are.
-/

namespace FleetConfig

namespace Binary64

/-- A double with a sign and a magnitude is a number. -/
theorem IsNearest.ne_nan
    {double : Binary64}
    {negative : Bool}
    {size : ℚ}
    (nearest : double.IsNearest negative size) :
    double ≠ .nan := by
  obtain ⟨magnitude, _, rfl⟩ := nearest
  unfold ofMagnitude
  split <;> exact nofun

theorem isBlank_of_isDoubleCharacter
    {character : Char}
    (isDouble : isDoubleCharacter character = true) :
    Text.isBlank character = false := by
  rcases Bool.or_eq_true_iff.mp isDouble with digit | mark
  · exact Text.isBlank_of_isFigure
      (Text.isFigure_of_isDigit (Text.isDigit_of_isDigit digit))
  · revert mark
    simp only [List.contains_cons, List.contains_nil, Bool.or_false,
      Bool.or_eq_true, beq_iff_eq]
    rintro (rfl | rfl | rfl | rfl) <;> decide

end Binary64

namespace Numeral

/-- A numeral denotes a number. -/
theorem toNumber_ne_nan
    (numeral : Numeral) :
    numeral.toNumber ≠ .double .nan := by
  unfold toNumber
  split
  case isTrue =>
    exact nofun
  case isFalse =>
    intro same
    exact (Binary64.isNearest_ofDecimal _ _ _).ne_nan (Number.double.inj same)

/-- Finite doubles are written as numerals. -/
theorem read?_text_ne_none
    {value : Binary64}
    (finite : value.isFinite = true) :
    read? value.text ≠ none := by
  cases value with
  | nan =>
      contradiction
  | infinite negative =>
      contradiction
  | finite negative magnitude =>
      obtain ⟨numeral, isRead, _⟩ :=
        Binary64.exists_readAll?_text negative magnitude
      have noBlanks :
          ∀ character ∈ (Binary64.finite negative magnitude).text.toList,
            Text.isBlank character = false :=
        fun character member =>
          Binary64.isBlank_of_isDoubleCharacter
            (Binary64.isDoubleCharacter_of_mem member)
      rw [read?, Text.stripBlanks_of_none noBlanks, isRead]
      exact nofun

end Numeral

namespace Scalar

/-- What a scalar is compared by. -/
inductive Sense where
  | nothing
  | number (position : Number.Position)
  | word (word : String)

/-- A scalar is compared by its number or, failing that, by its text. -/
def sense (scalar : Scalar) : Sense :=
  match scalar.number?.bind Number.position?, scalar.text? with
  | some position, _ =>
      .number position
  | none, some word =>
      .word word
  | none, none =>
      .nothing

variable {scalar left right : Scalar} {number : Number} {word : String}

theorem text?_eq_none_iff :
    scalar.text? = none ↔ scalar = .null := by
  cases scalar <;> simp [text?]

/-- The number of a finite scalar has a position. -/
theorem exists_position
    (finite : scalar.isFinite = true)
    (isNumber : scalar.number? = some number) :
    ∃ position, number.position? = some position := by
  apply Number.exists_position
  cases scalar with
  | integer value =>
      cases isNumber
      exact nofun
  | double value =>
      cases isNumber
      intro same
      cases same
      cases finite
  | text value =>
      obtain ⟨numeral, _, rfl⟩ := Option.map_eq_some_iff.mp isNumber
      exact numeral.toNumber_ne_nan
  | null =>
      cases isNumber
  | boolean value =>
      cases isNumber

/-- A finite scalar denotes a number exactly if its text does. -/
theorem number?_eq_none_iff
    (finite : scalar.isFinite = true)
    (isText : scalar.text? = some word) :
    scalar.number? = none ↔ Numeral.read? word = none := by
  cases scalar with
  | null =>
      cases isText
  | boolean value =>
      cases isText
      cases value <;> decide
  | integer value =>
      cases isText
      obtain ⟨literal, written⟩ :=
        IntegerLiteral.exists_text_eq_toString value
      rw [← written, literal.read?_text]
      exact ⟨nofun, nofun⟩
  | double value =>
      cases isText
      exact ⟨nofun, fun none => absurd none (Numeral.read?_text_ne_none finite)⟩
  | text value =>
      cases isText
      exact Option.map_eq_none_iff

theorem sense_of_number
    {position : Number.Position}
    (isNumber : scalar.number? = some number)
    (isPosition : number.position? = some position) :
    scalar.sense = .number position := by
  simp [sense, isNumber, isPosition]

theorem sense_of_no_number
    (noNumber : scalar.number? = none) :
    scalar.sense = scalar.text?.elim .nothing .word := by
  unfold sense
  rw [noNumber, Option.bind_none]
  cases scalar.text? <;> rfl

theorem sense_ne_number
    {position : Number.Position}
    (noNumber : scalar.number? = none) :
    scalar.sense ≠ .number position := by
  rw [sense_of_no_number noNumber]
  cases scalar.text? <;> exact nofun

/-- Scalars are compared as numbers if they both denote one, and otherwise as texts. -/
theorem alike_eq
    (left right : Scalar) :
    left.alike right =
      match left.number?, right.number? with
      | some leftNumber, some rightNumber =>
          leftNumber.equal rightNumber
      | _, _ =>
          left.text? == right.text? := by
  cases right with
  | null =>
      cases left <;> simp [alike, number?, text?]
  | _ =>
      cases left <;> rfl

theorem alike_of_number
    {other : Number}
    (leftNumber : left.number? = some number)
    (rightNumber : right.number? = some other) :
    left.alike right = number.equal other := by
  rw [alike_eq, leftNumber, rightNumber]

theorem alike_of_no_number
    (noNumber : left.number? = none) :
    left.alike right = (left.text? == right.text?) := by
  rw [alike_eq, noNumber]

theorem alike_comm
    (left right : Scalar) :
    left.alike right = right.alike left := by
  rw [alike_eq, alike_eq]
  cases left.number? <;> cases right.number? <;>
    simp [Number.equal_comm, Bool.beq_eq_decide_eq, eq_comm]

/-- A number is not like a finite scalar that denotes none. -/
theorem not_alike_of_number
    (leftFinite : left.isFinite = true)
    (rightFinite : right.isFinite = true)
    (isNumber : left.number? = some number)
    (noNumber : right.number? = none) :
    left.alike right = false := by
  rw [alike_comm, alike_of_no_number noNumber]
  refine beq_eq_false_iff_ne.mpr fun sameText => ?_
  cases leftText : left.text? with
  | none =>
      cases text?_eq_none_iff.mp leftText
      cases isNumber
  | some word =>
      have noNumeral :=
        (number?_eq_none_iff rightFinite (sameText.trans leftText)).mp noNumber
      rw [(number?_eq_none_iff leftFinite leftText).mpr noNumeral] at isNumber
      cases isNumber

/-- Finite scalars are alike exactly if they are compared by the same thing. -/
theorem alike_iff_sense_eq
    (leftFinite : left.isFinite = true)
    (rightFinite : right.isFinite = true) :
    left.alike right = true ↔ left.sense = right.sense := by
  cases leftNumber : left.number? with
  | some number =>
      obtain ⟨position, isPosition⟩ := exists_position leftFinite leftNumber
      rw [sense_of_number leftNumber isPosition]
      cases rightNumber : right.number? with
      | some other =>
          obtain ⟨otherPosition, isOther⟩ :=
            exists_position rightFinite rightNumber
          rw [alike_of_number leftNumber rightNumber,
            sense_of_number rightNumber isOther, Sense.number.injEq]
          exact Number.equal_iff isPosition isOther
      | none =>
          rw [not_alike_of_number leftFinite rightFinite leftNumber rightNumber]
          exact ⟨nofun, fun same => absurd same.symm (sense_ne_number rightNumber)⟩
  | none =>
      cases rightNumber : right.number? with
      | some other =>
          obtain ⟨otherPosition, isOther⟩ :=
            exists_position rightFinite rightNumber
          rw [alike_comm, sense_of_number rightNumber isOther,
            not_alike_of_number rightFinite leftFinite rightNumber leftNumber]
          exact ⟨nofun, fun same => absurd same (sense_ne_number leftNumber)⟩
      | none =>
          rw [alike_of_no_number leftNumber,
            sense_of_no_number leftNumber, sense_of_no_number rightNumber,
            beq_iff_eq]
          cases left.text? <;> cases right.text? <;> simp

end Scalar

namespace Value

theorem itemsAlike_iff_forall₂
    {left right : List Value} :
    itemsAlike left right = true ↔
      List.Forall₂ (fun item other => item.alike other = true) left right := by
  induction left generalizing right with
  | nil =>
      cases right <;> simp [itemsAlike]
  | cons item rest inductionHypothesis =>
      cases right with
      | nil =>
          simp [itemsAlike]
      | cons other others =>
          rw [itemsAlike, Bool.and_eq_true, List.forall₂_cons,
            inductionHypothesis]

/-- Lists are alike exactly if they have as many items, and these are alike in pairs. -/
theorem alike_list_iff
    {left right : List Value} :
    (Value.list left).alike (.list right) = true ↔
      left.length = right.length ∧
        ∀ index (inLeft : index < left.length) (inRight : index < right.length),
          left[index].alike right[index] = true := by
  rw [alike, itemsAlike_iff_forall₂, List.forall₂_iff_get]
  rfl

theorem entriesAlike_ofFields_iff
    {left right : Fields} :
    entriesAlike (left.map fun field => (.text field.1, field.2))
        (right.map fun field => (.text field.1, field.2)) =
        true ↔
      ∀ field ∈ left,
        ∃ other,
          right.find? field.1 = some other ∧ field.2.alike other = true := by
  induction left with
  | nil =>
      simp [entriesAlike]
  | cons field rest inductionHypothesis =>
      rw [List.map_cons, entriesAlike, Bool.and_eq_true, inductionHypothesis,
        List.forall_mem_cons, Entries.find?_ofFields]
      cases right.find? field.1 <;> simp

/-- Maps are alike exactly if they have the same keys, and alike values under them. -/
theorem alike_ofFields_iff
    {left right : Fields}
    (leftDistinct : (left.map Prod.fst).Nodup)
    (rightDistinct : (right.map Prod.fst).Nodup) :
    (ofFields left).alike (ofFields right) = true ↔
      (left.map Prod.fst).Perm (right.map Prod.fst) ∧
        ∀ name value other,
          (name, value) ∈ left →
          (name, other) ∈ right →
          value.alike other = true := by
  rw [ofFields_eq, ofFields_eq, alike, Bool.and_eq_true, beq_iff_eq,
    entriesAlike_ofFields_iff, List.length_map, List.length_map]
  constructor
  · rintro ⟨sameLength, found⟩
    have subset : left.map Prod.fst ⊆ right.map Prod.fst := by
      intro name listed
      obtain ⟨field, member, rfl⟩ := List.mem_map.mp listed
      obtain ⟨other, isFound, _⟩ := found field member
      exact Fields.find?_isSome_iff.mp (Option.isSome_of_eq_some isFound)
    refine ⟨(List.subperm_of_subset leftDistinct subset).perm_of_length_le
      (by simp [sameLength]), ?_⟩
    intro name value other member otherMember
    obtain ⟨_, isFound, alike⟩ := found (name, value) member
    rw [Fields.find?,
      (Entries.lookup_eq_some_iff_mem rightDistinct).mpr otherMember] at isFound
    cases isFound
    exact alike
  · rintro ⟨permuted, each⟩
    refine ⟨by simpa using permuted.length_eq, fun field member => ?_⟩
    have listed : field.1 ∈ right.map Prod.fst :=
      permuted.mem_iff.mp (List.mem_map_of_mem member)
    obtain ⟨⟨name, other⟩, otherMember, rfl⟩ := List.mem_map.mp listed
    exact ⟨other, (Entries.lookup_eq_some_iff_mem rightDistinct).mpr otherMember,
      each _ _ _ member otherMember⟩

section Shape

variable {right : Value}

theorem exists_scalar_of_alike
    {left : Scalar}
    (isPlain : right.IsPlain)
    (alike : (Value.scalar left).alike right = true) :
    ∃ other, right = .scalar other ∧ other.isFinite = true := by
  revert alike
  refine isPlain.induction ?scalar ?list ?map
  case scalar =>
    intro scalar finite _
    exact ⟨scalar, rfl, finite⟩
  case list =>
    intro items _ _ alike
    exact absurd alike Bool.false_ne_true
  case map =>
    intro fields _ _ _ alike
    exact absurd alike Bool.false_ne_true

theorem exists_list_of_alike
    {left : List Value}
    (isPlain : right.IsPlain)
    (alike : (Value.list left).alike right = true) :
    ∃ others, right = .list others ∧ ∀ other ∈ others, other.IsPlain := by
  revert alike
  refine isPlain.induction ?scalar ?list ?map
  case scalar =>
    intro scalar _ alike
    exact absurd alike Bool.false_ne_true
  case list =>
    intro items each _ _
    exact ⟨items, rfl, each⟩
  case map =>
    intro fields _ _ _ alike
    exact absurd alike Bool.false_ne_true

theorem exists_fields_of_alike
    {left : Fields}
    (isPlain : right.IsPlain)
    (alike : (Value.ofFields left).alike right = true) :
    ∃ others,
      right = .ofFields others ∧
        (others.map Prod.fst).Nodup ∧
        ∀ other ∈ others, other.2.IsPlain := by
  revert alike
  refine isPlain.induction ?scalar ?list ?map
  case scalar =>
    intro scalar _ alike
    exact absurd alike Bool.false_ne_true
  case list =>
    intro items _ _ alike
    exact absurd alike Bool.false_ne_true
  case map =>
    intro fields distinct each _ _
    exact ⟨fields, rfl, distinct, each⟩

end Shape

namespace IsPlain

variable {value left : Value}

theorem alike_self
    (isPlain : value.IsPlain) :
    value.alike value = true := by
  refine isPlain.induction ?scalar ?list ?map
  case scalar =>
    intro scalar finite
    rw [Value.alike]
    exact (Scalar.alike_iff_sense_eq finite finite).mpr rfl
  case list =>
    intro items _ inductionHypothesis
    exact alike_list_iff.mpr
      ⟨rfl, fun index inItems _ =>
        inductionHypothesis _ (List.getElem_mem inItems)⟩
  case map =>
    intro fields distinct _ inductionHypothesis
    refine (alike_ofFields_iff distinct distinct).mpr ⟨.refl _, ?_⟩
    intro name value other member otherMember
    rw [eq_of_mem_fields distinct otherMember member]
    exact inductionHypothesis (name, value) member

theorem alike_symm
    (leftPlain : left.IsPlain) :
    ∀ right : Value,
      right.IsPlain →
      left.alike right = true →
      right.alike left = true := by
  refine leftPlain.induction ?scalar ?list ?map
  case scalar =>
    intro scalar _ right rightPlain alike
    obtain ⟨other, rfl, _⟩ := exists_scalar_of_alike rightPlain alike
    rw [Value.alike] at alike ⊢
    rwa [Scalar.alike_comm]
  case list =>
    intro items _ inductionHypothesis right rightPlain alike
    obtain ⟨others, rfl, othersPlain⟩ := exists_list_of_alike rightPlain alike
    obtain ⟨sameLength, each⟩ := alike_list_iff.mp alike
    refine alike_list_iff.mpr
      ⟨sameLength.symm, fun index inOthers inItems => ?_⟩
    exact inductionHypothesis _ (List.getElem_mem inItems) _
      (othersPlain _ (List.getElem_mem inOthers)) (each index inItems inOthers)
  case map =>
    intro fields distinct _ inductionHypothesis right rightPlain alike
    obtain ⟨others, rfl, othersDistinct, othersPlain⟩ :=
      exists_fields_of_alike rightPlain alike
    obtain ⟨sameKeys, each⟩ := (alike_ofFields_iff distinct othersDistinct).mp alike
    refine (alike_ofFields_iff othersDistinct distinct).mpr
      ⟨sameKeys.symm, fun name value other member otherMember => ?_⟩
    exact inductionHypothesis (name, other) otherMember _
      (othersPlain _ member) (each name other value otherMember member)

theorem alike_trans
    (leftPlain : left.IsPlain) :
    ∀ middle right : Value,
      middle.IsPlain →
      right.IsPlain →
      left.alike middle = true →
      middle.alike right = true →
      left.alike right = true := by
  refine leftPlain.induction ?scalar ?list ?map
  case scalar =>
    intro scalar finite middle right middlePlain rightPlain alike further
    obtain ⟨between, rfl, betweenFinite⟩ := exists_scalar_of_alike middlePlain alike
    obtain ⟨other, rfl, otherFinite⟩ := exists_scalar_of_alike rightPlain further
    rw [Value.alike] at alike further ⊢
    rw [Scalar.alike_iff_sense_eq finite betweenFinite] at alike
    rw [Scalar.alike_iff_sense_eq betweenFinite otherFinite] at further
    exact (Scalar.alike_iff_sense_eq finite otherFinite).mpr (alike.trans further)
  case list =>
    intro items _ inductionHypothesis middle right middlePlain rightPlain alike further
    obtain ⟨between, rfl, betweenPlain⟩ := exists_list_of_alike middlePlain alike
    obtain ⟨others, rfl, othersPlain⟩ := exists_list_of_alike rightPlain further
    obtain ⟨sameLength, each⟩ := alike_list_iff.mp alike
    obtain ⟨furtherLength, furtherEach⟩ := alike_list_iff.mp further
    refine alike_list_iff.mpr
      ⟨sameLength.trans furtherLength, fun index inItems inOthers => ?_⟩
    have inBetween : index < between.length := sameLength ▸ inItems
    exact inductionHypothesis _ (List.getElem_mem inItems) _ _
      (betweenPlain _ (List.getElem_mem inBetween))
      (othersPlain _ (List.getElem_mem inOthers))
      (each index inItems inBetween) (furtherEach index inBetween inOthers)
  case map =>
    intro fields distinct _ inductionHypothesis middle right middlePlain rightPlain
      alike further
    obtain ⟨between, rfl, betweenDistinct, betweenPlain⟩ :=
      exists_fields_of_alike middlePlain alike
    obtain ⟨others, rfl, othersDistinct, othersPlain⟩ :=
      exists_fields_of_alike rightPlain further
    obtain ⟨sameKeys, each⟩ := (alike_ofFields_iff distinct betweenDistinct).mp alike
    obtain ⟨furtherKeys, furtherEach⟩ :=
      (alike_ofFields_iff betweenDistinct othersDistinct).mp further
    refine (alike_ofFields_iff distinct othersDistinct).mpr
      ⟨sameKeys.trans furtherKeys, fun name value other member otherMember => ?_⟩
    have listed : name ∈ between.map Prod.fst :=
      sameKeys.mem_iff.mp (List.mem_map_of_mem member)
    obtain ⟨⟨_, shared⟩, inBetween, rfl⟩ := List.mem_map.mp listed
    exact inductionHypothesis (_, value) member _ _ (betweenPlain _ inBetween)
      (othersPlain _ otherMember) (each _ value shared member inBetween)
      (furtherEach _ shared other inBetween otherMember)

end IsPlain

/--
Loose equality is an equivalence on the JSON values with finite numbers only, however
deeply they are nested.
-/
theorem alike_equivalence :
    Equivalence fun left right : { value : Value // value.IsPlain } =>
      left.val.alike right.val = true where
  refl value := value.property.alike_self
  symm {left right} :=
    left.property.alike_symm right right.property
  trans {left middle right} :=
    left.property.alike_trans middle right middle.property right.property

/-- A number is like the texts that spell it, and a truth value like its word alone. -/
example :
    (Value.integer 1).alike (.text " 1e0 ") = true ∧
      (Value.text " 1e0 ").alike (.text "+1.") = true ∧
      (Value.boolean true).alike (.text "true") = true ∧
      (Value.boolean true).alike (.integer 1) = false := by
  decide +kernel

end Value

end FleetConfig
