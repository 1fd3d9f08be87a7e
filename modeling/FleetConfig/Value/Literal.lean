import FleetConfig.Value.Basic
import FleetConfig.Text.Quoted

/-!
# Values in messages

Messages show a value as a literal: texts in quotes, lists in square and maps in
curly brackets with a comma and a space between the parts.
-/

namespace FleetConfig

/-- A scalar as it is shown in a message. -/
def Scalar.literal : Scalar → String
  | .null =>
      "None"
  | .boolean value =>
      if value then "True" else "False"
  | .integer value =>
      toString value
  | .double value =>
      value.text
  | .text value =>
      Text.quoted value

namespace Value

mutual

/-- A value as it is shown in a message. -/
def literal : Value → String
  | .scalar value =>
      value.literal
  | .list items =>
      "[" ++ ", ".intercalate (literals items) ++ "]"
  | .map entries =>
      "\x7b" ++ ", ".intercalate (entryLiterals entries) ++ "\x7d"

/-- The literals of the items of a list. -/
def literals : List Value → List String
  | [] =>
      []
  | item :: rest =>
      item.literal :: literals rest

/-- The literals of the entries of a map. -/
def entryLiterals : List (Scalar × Value) → List String
  | [] =>
      []
  | (key, value) :: rest =>
      (key.literal ++ ": " ++ value.literal) :: entryLiterals rest

end

/-- The word for the kind of value that a rule value may not be. -/
def kindWord : Value → String
  | .scalar .null =>
      "NoneType"
  | .scalar (.boolean _) =>
      "bool"
  | .scalar (.integer _) =>
      "int"
  | .scalar (.double _) =>
      "float"
  | .scalar (.text _) =>
      "str"
  | .list _ =>
      "list"
  | .map _ =>
      "dict"

end Value

end FleetConfig
