import FleetConfig.Pattern.Basic
import FleetConfig.Rule.Basic
import FleetConfig.Value.Comparison

/-!
# Evaluating rules

A rule either matches a fact or not, or it has a problem and then does not
match.  A fact that is missing matches only when its absence is asked for, but a
bad pattern or bound is a problem even then.
-/

namespace FleetConfig

/-- The kinds of problems with rules. -/
inductive ProblemKind where
  | badPattern
  | notNumeric
  | unusableFact
  deriving Repr, DecidableEq

/-- Why a rule could not be evaluated. -/
inductive Problem where
  | badPattern (source : String) (invalid : Pattern.Invalid)
  | boundNotNumeric (bound : Scalar)
  | factNotNumeric (path : String) (fact : Value)
  | factWithoutText (path : String) (fact : Value)
  deriving Repr

namespace ProblemKind

/-- The name of a kind of problem. -/
def name : ProblemKind → String
  | .badPattern =>
      "bad_regex"
  | .notNumeric =>
      "non_numeric_comparison"
  | .unusableFact =>
      "invalid_rule_shape"

end ProblemKind

namespace Problem

/-- The kind of a problem. -/
def kind : Problem → ProblemKind
  | .badPattern .. =>
      .badPattern
  | .boundNotNumeric _ =>
      .notNumeric
  | .factNotNumeric .. =>
      .notNumeric
  | .factWithoutText .. =>
      .unusableFact

/-- The word for a fact that has no text. -/
def factWord : Value → String
  | .map _ =>
      "map"
  | .list _ =>
      "sequence"
  | .scalar _ =>
      "null"

/-- The message for a problem. -/
def message : Problem → String
  | .badPattern source invalid =>
      s!"Invalid pattern {Text.quoted source}: {invalid.message source}"
  | .boundNotNumeric bound =>
      s!"Rule value {bound.literal} is not numeric"
  | .factNotNumeric path fact =>
      s!"Fact '{path}' value {fact.literal} is not numeric"
  | .factWithoutText path fact =>
      s!"Fact '{path}' holds a {factWord fact}, which cannot be matched against a pattern"

end Problem

/-- A problem, with the rule and the group it came up in. -/
structure RuleError where
  group? : Option String
  rule : String
  path : String
  problem : Problem
  deriving Repr

/-- What a rule finds for a fact, which may be missing. -/
structure Evaluation where
  rule : String
  matched : Bool
  fact? : Option Value
  error? : Option RuleError
  deriving Repr

namespace RuleError

/-- A rule error as a record of plain values. -/
def toPlain (error : RuleError) : Value :=
  .ofFields
    [("group_id", .optionalText error.group?),
      ("rule_id", .text error.rule),
      ("fact_path", .text error.path),
      ("kind", .text error.problem.kind.name),
      ("message", .text error.problem.message)]

end RuleError

namespace Order

/-- Whether a number compares with a bound as asked. -/
def holds
    (order : Order)
    (actual bound : Number) :
    Bool :=
  match order with
  | .greater =>
      bound.less actual
  | .greaterOrEqual =>
      bound.lessOrEqual actual
  | .less =>
      actual.less bound
  | .lessOrEqual =>
      actual.lessOrEqual bound

end Order

/-- Turn an answer around when its opposite is asked for. -/
def opposite (negated answer : Bool) : Bool :=
  if negated then !answer else answer

namespace Rule

/-- Match a compiled pattern with a fact. -/
def patternVerdict
    (path : String)
    (negated : Bool)
    (source : String)
    (compiled : Except Pattern.Invalid Pattern)
    (fact? : Option Value) :
    Except Problem Bool :=
  match compiled with
  | .error invalid =>
      .error (.badPattern source invalid)
  | .ok pattern =>
      match fact? with
      | none =>
          .ok false
      | some fact =>
          match fact.text? with
          | some text =>
              .ok (opposite negated (pattern.search text))
          | none =>
              .error (.factWithoutText path fact)

/-- Compare a fact with a bound. -/
def orderingVerdict
    (path : String)
    (order : Order)
    (bound : Scalar)
    (fact? : Option Value) :
    Except Problem Bool :=
  match bound.number? with
  | none =>
      .error (.boundNotNumeric bound)
  | some expected =>
      match fact? with
      | none =>
          .ok false
      | some fact =>
          match fact.number? with
          | some actual =>
              .ok (order.holds actual expected)
          | none =>
              .error (.factNotNumeric path fact)

/-- Whether a rule matches a fact; its pattern, if it has one, is compiled by `compile`. -/
def verdict
    {m : Type → Type}
    [Monad m]
    (compile : String → m (Except Pattern.Invalid Pattern))
    (rule : Rule)
    (fact? : Option Value) :
    m (Except Problem Bool) :=
  match rule.condition with
  | .presence negated =>
      pure (.ok (opposite negated fact?.isSome))
  | .pattern negated source => do
      let compiled ← compile source
      pure (patternVerdict rule.path.text negated source compiled fact?)
  | .ordering order bound =>
      pure (orderingVerdict rule.path.text order bound fact?)
  | .equality negated expected =>
      pure (.ok (fact?.any fun fact =>
        opposite negated (fact.alike (.scalar expected))))
  | .membership negated items =>
      pure (.ok (fact?.any fun fact =>
        opposite negated (items.any fun item => fact.alike (.scalar item))))

/-- Record a verdict on a fact. -/
def evaluation
    (group? : Option String)
    (rule : Rule)
    (fact? : Option Value) :
    Except Problem Bool → Evaluation
  | .ok matched =>
      ⟨rule.id, matched, fact?, none⟩
  | .error problem =>
      ⟨rule.id, false, fact?, some ⟨group?, rule.id, rule.path.text, problem⟩⟩

/-- The fact that a rule looks at. -/
def fact?
    (rule : Rule)
    (facts : Value) :
    Option Value :=
  rule.path.resolve? facts

end Rule

end FleetConfig
