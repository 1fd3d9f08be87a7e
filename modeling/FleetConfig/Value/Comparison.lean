import FleetConfig.Value.Basic

/-!
# Comparing values

Rules compare a fact with an expected value loosely.  Scalars that both denote
numbers are equal as numbers, so `1`, `1.0` and `"1"` are equal; other scalars
are equal as texts, except that `null` equals only itself.  Lists are compared
item by item and maps key by key.
-/

namespace FleetConfig

namespace Scalar

/-- The number that a scalar denotes: a number itself, or a text that is a numeral. -/
def number? : Scalar → Option Number
  | .integer value =>
      some (.integer value)
  | .double value =>
      some (.double value)
  | .text value =>
      (Numeral.read? value).map (·.toNumber)
  | _ =>
      none

/-- A scalar as text; `null` has none. -/
def text? : Scalar → Option String
  | .null =>
      none
  | .boolean value =>
      some (if value then "true" else "false")
  | .integer value =>
      some (toString value)
  | .double value =>
      some value.text
  | .text value =>
      some value

/-- Whether two scalars are equal as numbers or, failing that, as texts. -/
def alike : Scalar → Scalar → Bool
  | .null, .null =>
      true
  | .null, _ =>
      false
  | _, .null =>
      false
  | left, right =>
      match left.number?, right.number? with
      | some leftNumber, some rightNumber =>
          leftNumber.equal rightNumber
      | _, _ =>
          left.text? == right.text?

end Scalar

namespace Value

/-- The number that a value denotes; lists and maps denote none. -/
def number? : Value → Option Number
  | .scalar value =>
      value.number?
  | _ =>
      none

/-- A value as text; `null`, lists and maps have none. -/
def text? : Value → Option String
  | .scalar value =>
      value.text?
  | _ =>
      none

mutual

/-- Whether two values are equal in the loose sense of the rules. -/
def alike : Value → Value → Bool
  | .scalar left, .scalar right =>
      left.alike right
  | .list left, .list right =>
      itemsAlike left right
  | .map left, .map right =>
      left.length == right.length && entriesAlike left right
  | _, _ =>
      false

/-- Whether two lists have equally many items, alike in pairs. -/
def itemsAlike : List Value → List Value → Bool
  | [], [] =>
      true
  | left :: leftRest, right :: rightRest =>
      left.alike right && itemsAlike leftRest rightRest
  | _, _ =>
      false

/-- Whether every entry has an alike entry under its key among the others. -/
def entriesAlike : List (Scalar × Value) → List (Scalar × Value) → Bool
  | [], _ =>
      true
  | (key, value) :: rest, others =>
      (match Entries.find? others key with
        | some other =>
            value.alike other
        | none =>
            false) && entriesAlike rest others

end

end Value

end FleetConfig
