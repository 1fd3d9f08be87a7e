import FleetConfig.Value.Basic

/-!
# Plain values

What other programs can read from a value: every key is a text, and a number
that is not finite is `null`.  Keys that become the same text share one entry,
in which the later value stands.
-/

namespace FleetConfig

namespace Scalar

/-- A key as text. -/
def keyText : Scalar → String
  | .null =>
      "None"
  | .boolean value =>
      if value then "true" else "false"
  | .integer value =>
      toString value
  | .double value =>
      value.text
  | .text value =>
      value

/-- A scalar with `null` for numbers that are not finite. -/
def plain : Scalar → Scalar
  | .double value =>
      if value.isFinite then .double value else .null
  | value =>
      value

end Scalar

namespace Value

mutual

/-- A value with text keys and finite numbers only. -/
def plain : Value → Value
  | .scalar value =>
      .scalar value.plain
  | .list items =>
      .list (plainItems items)
  | .map entries =>
      .map (Entries.ofList (plainEntries entries))

/-- The items of a list with text keys and finite numbers only. -/
def plainItems : List Value → List Value
  | [] =>
      []
  | item :: rest =>
      plain item :: plainItems rest

/-- The entries of a map with text keys and finite numbers only. -/
def plainEntries : List (Scalar × Value) → List (Scalar × Value)
  | [] =>
      []
  | (key, value) :: rest =>
      (.text key.keyText, plain value) :: plainEntries rest

end

/-- Fields with text keys and finite numbers only. -/
def plainFields (fields : Fields) : Fields :=
  fields.map fun (key, value) => (key, value.plain)

end Value

end FleetConfig
