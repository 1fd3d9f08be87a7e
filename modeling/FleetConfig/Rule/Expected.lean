import FleetConfig.Value.Literal

/-!
# Expected values

What a rule compares a fact with: nothing, a scalar, or a list of scalars.
-/

namespace FleetConfig

/-- The value that a rule expects. -/
inductive Expected where
  | nothing
  | scalar (value : Scalar)
  | list (items : List Scalar)
  deriving Repr, DecidableEq

/-- Why a value cannot be expected by a rule. -/
inductive ExpectedError where
  | nestedItem (item : Value)
  | map (value : Value)
  deriving Repr

namespace ExpectedError

/-- The message for a value that cannot be expected. -/
def message : ExpectedError → String
  | .nestedItem item =>
      s!"Rule value lists may only hold scalars, got {item.kindWord}"
  | .map value =>
      s!"Unsupported rule value type: {value.kindWord}"

end ExpectedError

namespace Expected

/-- The scalars that make up a list, unless it holds something else. -/
def scalars : List Value → Except ExpectedError (List Scalar)
  | [] =>
      .ok []
  | .scalar value :: rest =>
      (scalars rest).map (value :: ·)
  | item :: _ =>
      .error (.nestedItem item)

/-- Take a value as an expected value. -/
def ofValue : Value → Except ExpectedError Expected
  | .scalar value =>
      .ok (.scalar value)
  | .list items =>
      (scalars items).map .list
  | value =>
      .error (.map value)

/-- The value that was taken as an expected value; `null` stands for nothing. -/
def toValue : Expected → Value
  | .nothing =>
      .null
  | .scalar value =>
      .scalar value
  | .list items =>
      .list (items.map .scalar)

/-- The word for the kind of an expected value. -/
def kind : Expected → String
  | .nothing =>
      "none"
  | .scalar _ =>
      "scalar"
  | .list _ =>
      "list"

end Expected

end FleetConfig
