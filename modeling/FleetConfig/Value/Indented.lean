import FleetConfig.Value.Json

/-!
# Indented JSON text

Values as JSON text over several lines, two blanks deeper for each level.
Lists and maps without parts stay on one line.
-/

namespace FleetConfig.Value

/-- A line break and the blanks in front of a line of some level. -/
def lineStart (level : Nat) : List Char :=
  '\n' :: List.replicate (2 * level) ' '

/-- Parts between two brackets, each part on a line of its own. -/
def bracketed
    (level : Nat)
    (opening closing : Char)
    (parts : List (List Char)) :
    List Char :=
  if parts.isEmpty then
    [opening, closing]
  else
    opening :: lineStart (level + 1) ++ joined (',' :: lineStart (level + 1)) parts ++
      lineStart level ++ [closing]

mutual

/-- A value at some level as indented JSON text. -/
def indented (level : Nat) : Value → List Char
  | .scalar value =>
      value.json
  | .list items =>
      bracketed level '[' ']' (indentedItems (level + 1) items)
  | .map entries =>
      bracketed level '\x7b' '\x7d' (indentedEntries (level + 1) entries)

/-- The items of a list as indented JSON text. -/
def indentedItems (level : Nat) : List Value → List (List Char)
  | [] =>
      []
  | item :: rest =>
      indented level item :: indentedItems level rest

/-- The entries of a map as indented JSON text. -/
def indentedEntries (level : Nat) : List (Scalar × Value) → List (List Char)
  | [] =>
      []
  | (key, value) :: rest =>
      (key.jsonKey ++ [':', ' '] ++ indented level value) :: indentedEntries level rest

end

/-- A value as indented JSON text. -/
def indentedJson (value : Value) : String :=
  String.ofList (value.indented 0)

end FleetConfig.Value
