import FleetConfig.Proofs.FactLookup
import FleetConfig.Proofs.Rule.Reading
import FleetConfig.Rule.Evaluation

/-!
# What is known of a rule that was read

A rule can be evaluated without another look at whether its parts fit: its path is
read again and leads nowhere before the first item of a list, a pattern comes with a
text, and there is no operator that nobody knows what to do with.
-/

namespace FleetConfig

/-- No path leads before the first item of a list. -/
theorem FactPath.resolve_ne_beforeFirst
    (path : FactPath)
    (facts : Value) :
    Segment.resolve facts path.segments ≠ .beforeFirst :=
  Segment.resolve_ne_beforeFirst facts
    (Segment.parse_eq_ok_iff.mp path.parsed).2.index_nonnegative

/-! ## Evaluation without checks -/

/-- How the evaluation of parts that do not fit together goes wrong. -/
inductive Mishap where
  | path (error : FactPathError)
  | beforeFirst
  | patternWithoutText (value : Scalar)
  | unsupported (operator : Operator)
  deriving Repr

/-- Follow a path that was not read before. -/
def FactPath.follow
    (text : String)
    (facts : Value) :
    Except Mishap (Option Value) :=
  match Segment.parse text with
  | .error error =>
      .error (.path error)
  | .ok segments =>
      match Segment.resolve facts segments with
      | .found value =>
          .ok (some value)
      | .absent =>
          .ok none
      | .beforeFirst =>
          .error .beforeFirst

/-- The text of a path leads where the path does. -/
theorem FactPath.follow_text
    (path : FactPath)
    (facts : Value) :
    FactPath.follow path.text facts = .ok (path.resolve? facts) := by
  have onward := path.resolve_ne_beforeFirst facts
  unfold FactPath.follow FactPath.resolve?
  rw [path.parsed]
  dsimp only
  cases leads : Segment.resolve facts path.segments with
  | found value =>
      rfl
  | absent =>
      rfl
  | beforeFirst =>
      contradiction

namespace Operator

/-- The operators that look for a pattern. -/
def patterns : List Operator :=
  [.pattern false, .pattern true]

/-- The operators that compare with a bound. -/
def orderings : List Operator :=
  [.ordering .greater, .ordering .greaterOrEqual, .ordering .less, .ordering .lessOrEqual]

/-- The operators that compare with a value. -/
def equalities : List Operator :=
  [.equality false, .equality true]

/-- The operators that look through a list. -/
def memberships : List Operator :=
  [.membership false, .membership true]

/-- An operator can use an expected value. -/
def Fits : Operator → Expected → Prop
  | .presence _, expected =>
      expected = .nothing
  | .membership _, expected =>
      ∃ items, expected = .list items
  | .pattern _, expected =>
      ∃ source, expected = .scalar (.text source)
  | .equality _, expected
  | .ordering _, expected =>
      ∃ value, expected = .scalar value

end Operator

namespace Expected

/-- The scalar of an expected value; `null` if it has none. -/
def scalarOrNull : Expected → Scalar
  | .scalar value =>
      value
  | _ =>
      .null

/-- The items of an expected value. -/
def items : Expected → List Scalar
  | .list items =>
      items
  | _ =>
      []

end Expected

/-- The scalars that make up a list are its items. -/
theorem Expected.map_scalar_of_scalars
    {items : List Value}
    {scalars : List Scalar}
    (areScalars : Expected.scalars items = .ok scalars) :
    scalars.map .scalar = items := by
  fun_induction Expected.scalars items generalizing scalars with
  | case1 =>
      cases areScalars
      rfl
  | case2 value rest inductionHypothesis =>
      cases others : Expected.scalars rest with
      | error reason =>
          rw [others] at areScalars
          cases areScalars
      | ok found =>
          rw [others] at areScalars
          cases areScalars
          rw [List.map_cons, inductionHypothesis others]
  | case3 =>
      cases areScalars

/-- Taking a value as an expected value leaves it as it is. -/
theorem Expected.toValue_of_ofValue
    {document : Value}
    {expected : Expected}
    (taken : Expected.ofValue document = .ok expected) :
    expected.toValue = document := by
  cases document with
  | scalar value =>
      cases taken
      rfl
  | list items =>
      change (Expected.scalars items).map .list = .ok expected at taken
      cases areScalars : Expected.scalars items with
      | error reason =>
          rw [areScalars] at taken
          cases taken
      | ok scalars =>
          rw [areScalars] at taken
          cases taken
          exact congrArg Value.list (Expected.map_scalar_of_scalars areScalars)
  | map entries =>
      cases taken

namespace Condition

variable {operator : Operator} {expected : Expected} {condition : Condition}

/-- A condition has a value that its operator can use. -/
theorem fits
    (condition : Condition) :
    condition.operator.Fits condition.expected := by
  cases condition with
  | equality negated value =>
      exact ⟨value, rfl⟩
  | pattern negated source =>
      exact ⟨source, rfl⟩
  | ordering order bound =>
      exact ⟨bound, rfl⟩
  | membership negated items =>
      exact ⟨items, rfl⟩
  | presence negated =>
      rfl

/-- The parts of a condition are those that it was put together from, but an absence needs no value. -/
theorem parts_of_ofParts
    (fits : ofParts operator expected = .ok condition) :
    condition.operator = operator ∧
      (condition.expected = .nothing ∨ condition.expected = expected) := by
  unfold ofParts at fits
  split at fits <;> cases fits <;> simp [Condition.operator, Condition.expected]

end Condition

namespace Rule

section Unchecked

variable {m : Type → Type} [Monad m]

/--
The verdict of an operator on a fact, which may be missing, with a value that nobody
checked: each family of operators takes from the value what it needs.
-/
def verdictOn
    (compile : String → m (Except Pattern.Invalid Pattern))
    (path : String)
    (operator : Operator)
    (expected : Expected)
    (fact? : Option Value) :
    m (Except Mishap (Except Problem Bool)) :=
  if operator = .presence false then
    pure (.ok (.ok fact?.isSome))
  else if operator = .presence true then
    pure (.ok (.ok !fact?.isSome))
  else if operator ∈ Operator.patterns then
    match expected.scalarOrNull with
    | .text source => do
        let compiled ← compile source
        pure (.ok
          (patternVerdict path (operator = .pattern true) source compiled fact?))
    | value =>
        pure (.error (.patternWithoutText value))
  else if operator ∈ Operator.orderings then
    let order :=
      if operator = .ordering .greater then
        .greater
      else if operator = .ordering .greaterOrEqual then
        .greaterOrEqual
      else if operator = .ordering .less then
        .less
      else
        .lessOrEqual
    pure (.ok (orderingVerdict path order expected.scalarOrNull fact?))
  else
    match fact? with
    | none =>
        pure (.ok (.ok false))
    | some fact =>
        if operator ∈ Operator.equalities then
          pure (.ok (.ok
            (opposite (operator = .equality true)
              (fact.alike (.scalar expected.scalarOrNull)))))
        else if operator ∈ Operator.memberships then
          pure (.ok (.ok
            (opposite (operator = .membership true)
              (expected.items.any fun item => fact.alike (.scalar item)))))
        else
          pure (.error (.unsupported operator))

/-- Evaluate the text of a path, an operator and a value that nobody checked. -/
def verdictUnchecked
    (compile : String → m (Except Pattern.Invalid Pattern))
    (path : String)
    (operator : Operator)
    (expected : Expected)
    (facts : Value) :
    m (Except Mishap (Except Problem Bool)) :=
  match FactPath.follow path facts with
  | .ok fact? =>
      verdictOn compile path operator expected fact?
  | .error mishap =>
      pure (.error mishap)

/-- Only the check of a rule keeps its evaluation from going wrong. -/
example :
    verdictUnchecked (fun _ => none) "[0]" (.pattern false) (.list []) (.list [.null]) =
      some (.error (.patternWithoutText .null)) := by
  rfl

variable [LawfulMonad m]

/-- The parts of a rule need no check. -/
theorem verdictOn_parts
    (compile : String → m (Except Pattern.Invalid Pattern))
    (rule : Rule)
    (fact? : Option Value) :
    verdictOn compile rule.path.text rule.condition.operator rule.condition.expected
        fact? =
      .ok <$> rule.verdict compile fact? := by
  unfold verdictOn verdict
  cases rule.condition with
  | presence negated =>
      cases negated <;> simp [Condition.operator, opposite]
  | pattern negated source =>
      cases negated <;>
        simp [Condition.operator, Condition.expected, Expected.scalarOrNull,
          Operator.patterns]
  | ordering order bound =>
      cases order <;>
        simp [Condition.operator, Condition.expected, Expected.scalarOrNull,
          Operator.patterns, Operator.orderings]
  | equality negated expected =>
      cases fact? <;> cases negated <;>
        simp [Condition.operator, Condition.expected, Expected.scalarOrNull,
          Operator.patterns, Operator.orderings, Operator.equalities]
  | membership negated items =>
      cases fact? <;> cases negated <;>
        simp [Condition.operator, Condition.expected, Expected.items,
          Operator.patterns, Operator.orderings, Operator.equalities,
          Operator.memberships]

/-- A rule is evaluated as its parts are, and nothing goes wrong. -/
theorem verdictUnchecked_parts
    (compile : String → m (Except Pattern.Invalid Pattern))
    (rule : Rule)
    (facts : Value) :
    verdictUnchecked compile rule.path.text rule.condition.operator
        rule.condition.expected facts =
      .ok <$> rule.verdict compile (rule.fact? facts) := by
  unfold verdictUnchecked
  rw [rule.path.follow_text]
  exact verdictOn_parts compile rule (rule.fact? facts)

end Unchecked

/-- What is known of a rule that was read from the fields of a record. -/
structure MadeFrom
    (rule : Rule)
    (entries : Entries) :
    Prop where
  path :
    ∃ text,
      entries.find? (.text "fact_path") = some (.text text) ∧
        rule.path.text = Text.strip text
  trimmed : Text.strip rule.path.text = rule.path.text
  parses : Segment.parse rule.path.text = .ok rule.path.segments
  resolves :
    ∀ facts, Segment.resolve facts rule.path.segments ≠ .beforeFirst
  operator :
    ∃ text,
      entries.find? (.text "operator") = some (.text text) ∧
        Operator.read text = .ok rule.condition.operator
  fits : rule.condition.operator.Fits rule.condition.expected
  expected :
    rule.condition.expected ≠ .nothing →
    entries.find? (.text "value") = some rule.condition.expected.toValue
  evaluates :
    ∀ {m : Type → Type} [Monad m] [LawfulMonad m]
        (compile : String → m (Except Pattern.Invalid Pattern))
        (facts : Value),
      verdictUnchecked compile rule.path.text rule.condition.operator
          rule.condition.expected facts =
        .ok <$> rule.verdict compile (rule.fact? facts)

theorem readOperator_eq_valid_iff
    {document : Value}
    {operator : Operator} :
    readOperator document = .valid operator ↔
      ∃ text, document = .text text ∧ Operator.read text = .ok operator := by
  constructor
  · intro isRead
    unfold readOperator at isRead
    split at isRead
    · exact ⟨_, rfl, Checked.ofExcept_eq_valid_iff.mp isRead⟩
    · exact absurd isRead Checked.defective_ne_valid
  · rintro ⟨text, rfl, isRead⟩
    exact Checked.ofExcept_eq_valid_iff.mpr isRead

/-- What was read was made from the fields of a record. -/
theorem exists_madeFrom
    {supply : IdSupply}
    {document : Value}
    {rule : Rule}
    (isRead : read supply document = .valid rule) :
    ∃ entries, document = .map entries ∧ rule.MadeFrom entries := by
  obtain ⟨entries, isRecord, reads⟩ := read_eq_valid_iff.mp isRead
  obtain ⟨operator, expected, operatorRead, expectedRead, fits⟩ := reads.condition
  refine ⟨entries, isRecord, ?_⟩
  constructor
  case path =>
    obtain ⟨written, found, pathRead⟩ := Schema.required_eq_valid_iff.mp reads.path
    obtain ⟨text, isText, parsed⟩ := Checked.andThen_eq_valid_iff.mp pathRead
    rw [Schema.text_eq_valid_iff.mp isText] at found
    exact ⟨text, found,
      (FactPath.parse_eq_ok_iff.mp (Checked.ofExcept_eq_valid_iff.mp parsed)).symm⟩
  case trimmed =>
    exact trimmed_of_read isRead
  case parses =>
    exact rule.path.parsed
  case resolves =>
    exact rule.path.resolve_ne_beforeFirst
  case operator =>
    obtain ⟨written, found, isOperator⟩ :=
      Schema.required_eq_valid_iff.mp operatorRead
    obtain ⟨text, rfl, named⟩ := readOperator_eq_valid_iff.mp isOperator
    rw [(Condition.parts_of_ofParts fits).1]
    exact ⟨text, found, named⟩
  case fits =>
    exact rule.condition.fits
  case expected =>
    intro notNothing
    have same := (Condition.parts_of_ofParts fits).2.resolve_left notNothing
    rcases Schema.withDefault_eq_valid_iff.mp expectedRead with
        ⟨written, found, taken⟩ | ⟨_, isDefault⟩
    · rw [found, same, Expected.toValue_of_ofValue
        (Checked.ofExcept_eq_valid_iff.mp taken)]
    · exact absurd (same.trans isDefault.symm) notNothing
  case evaluates =>
    intro m _ _ compile facts
    exact verdictUnchecked_parts compile rule facts

end Rule

end FleetConfig
