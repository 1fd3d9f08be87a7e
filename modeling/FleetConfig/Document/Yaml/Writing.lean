import FleetConfig.Document.Yaml.Resolution
import FleetConfig.Text.Quoted
import FleetConfig.Value.Basic

/-!
# Writing YAML

Values as YAML text in blocks.  A text stands by itself when it is a word that
means nothing else; any other text stands between quotation marks.
-/

namespace FleetConfig.Yaml

/-- Whether a character may occur in a word that stands by itself. -/
def isWordCharacter (character : Char) : Bool :=
  character.isAlphanum || ['_', '-', '.', '/'].contains character

/-- Whether a text can stand by itself. -/
def standsAlone (text : String) : Bool :=
  text.toList.head?.any Char.isAlpha && text.toList.all isWordCharacter &&
    meaningOf text == .text

/-- A text as a scalar. -/
def writeText (text : String) : List Char :=
  if standsAlone text then
    text.toList
  else
    '"' :: text.toList.flatMap (Text.quotedCharacter '"') ++ ['"']

/-- A double as a scalar: an exponent needs a period before it. -/
def writeDouble : Binary64 → List Char
  | .nan =>
      ".nan".toList
  | .infinite negative =>
      (if negative then "-.inf" else ".inf").toList
  | value =>
      let characters := value.text.toList
      if characters.contains '.' then
        characters
      else
        let mantissa := characters.takeWhile (· != 'e')
        mantissa ++ ['.', '0'] ++ characters.drop mantissa.length

/-- A scalar as text. -/
def writeScalar : Scalar → List Char
  | .null =>
      "null".toList
  | .boolean value =>
      (if value then "true" else "false").toList
  | .integer value =>
      (toString value).toList
  | .double value =>
      writeDouble value
  | .text value =>
      writeText value

/-- Lines behind a beginning; all but the first are moved to the right by as much. -/
def behind
    (beginning : List Char) :
    List (List Char) → List (List Char)
  | [] =>
      [beginning]
  | first :: rest =>
      (beginning ++ first) :: rest.map fun line =>
        List.replicate beginning.length ' ' ++ line

/-- The lines of a value under its key; what has parts begins on a line of its own. -/
def underKey
    (key : List Char)
    (value : Value)
    (lines : List (List Char)) :
    List (List Char) :=
  match value with
  | .list (_ :: _) =>
      key :: lines
  | .map (_ :: _) =>
      key :: lines.map ([' ', ' '] ++ ·)
  | _ =>
      behind (key ++ [' ']) lines

mutual

/-- The lines of a value. -/
def writeLines : Value → List (List Char)
  | .scalar value =>
      [writeScalar value]
  | .list [] =>
      ["[]".toList]
  | .list items =>
      writeItems items
  | .map [] =>
      [['\x7b', '\x7d']]
  | .map entries =>
      writeEntries entries

/-- The lines of the items of a list. -/
def writeItems : List Value → List (List Char)
  | [] =>
      []
  | item :: rest =>
      behind ['-', ' '] (writeLines item) ++ writeItems rest

/-- The lines of the entries of a map. -/
def writeEntries : List (Scalar × Value) → List (List Char)
  | [] =>
      []
  | (key, value) :: rest =>
      underKey (writeScalar key ++ [':']) value (writeLines value) ++ writeEntries rest

end

/-- A value as YAML text. -/
def write (value : Value) : String :=
  String.ofList ((writeLines value).flatMap (· ++ ['\n']))

end FleetConfig.Yaml
