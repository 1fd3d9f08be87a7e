import FleetConfig.Text.Blank
import FleetConfig.Text.Case

/-!
# Rule operators

The twelve operators of the rules in their five families.  Every operator has a
name; ten of them also have symbols.
-/

namespace FleetConfig

/-- How a number must compare with a bound. -/
inductive Order where
  | greater
  | greaterOrEqual
  | less
  | lessOrEqual
  deriving Repr, DecidableEq

/-- What a rule does with a fact; a negated operator asks for the opposite. -/
inductive Operator where
  | equality (negated : Bool)
  | pattern (negated : Bool)
  | ordering (order : Order)
  | membership (negated : Bool)
  | presence (negated : Bool)
  deriving Repr, DecidableEq

namespace Operator

/-- All operators. -/
def all : List Operator :=
  [.equality false, .equality true,
    .pattern false, .pattern true,
    .ordering .greater, .ordering .greaterOrEqual,
    .ordering .less, .ordering .lessOrEqual,
    .membership false, .membership true,
    .presence false, .presence true]

/-- The name of an operator. -/
def name : Operator → String
  | .equality negated =>
      if negated then "ne" else "eq"
  | .pattern negated =>
      if negated then "regex_not_match" else "regex_match"
  | .ordering .greater =>
      "gt"
  | .ordering .greaterOrEqual =>
      "gte"
  | .ordering .less =>
      "lt"
  | .ordering .lessOrEqual =>
      "lte"
  | .membership negated =>
      if negated then "not_in" else "in"
  | .presence negated =>
      if negated then "not_exists" else "exists"

/-- The symbols that stand for operators. -/
def symbols : List (String × Operator) :=
  [("=", .equality false),
    ("==", .equality false),
    ("!=", .equality true),
    ("~", .pattern false),
    ("=~", .pattern false),
    ("!~", .pattern true),
    (">", .ordering .greater),
    (">=", .ordering .greaterOrEqual),
    ("<", .ordering .less),
    ("<=", .ordering .lessOrEqual)]

/-- The operator with a name. -/
def ofName? (name : String) : Option Operator :=
  all.find? (·.name == name)

/-- Read an operator, given by a symbol or by a name in any letter case, between blanks. -/
def read (text : String) : Except String Operator :=
  let trimmed := Text.strip text
  match symbols.lookup trimmed with
  | some operator =>
      .ok operator
  | none =>
      let name := Text.lower trimmed
      match ofName? name with
      | some operator =>
          .ok operator
      | none =>
          .error name

end Operator

end FleetConfig
