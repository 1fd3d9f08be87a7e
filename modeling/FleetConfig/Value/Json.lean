import FleetConfig.Value.Basic
import FleetConfig.Text.Hex

/-!
# JSON text

Values as JSON text in printable ASCII.  A layout says what separates the parts
and whether the keys of maps are sorted; `canonicalJson` is the compact sorted
text, by which values are compared and hashed.
-/

namespace FleetConfig

/-- How JSON text is laid out. -/
structure JsonLayout where
  itemSeparator : List Char
  keySeparator : List Char
  sorted : Bool
  deriving Repr, DecidableEq

namespace JsonLayout

/-- No blanks, keys in ascending order. -/
def canonical : JsonLayout :=
  ⟨[','], [':'], true⟩

/-- A blank after each separator, keys in their own order. -/
def spaced : JsonLayout :=
  ⟨[',', ' '], [':', ' '], false⟩

end JsonLayout

namespace Text

/-- One UTF-16 unit as an escape. -/
def jsonUnit (unit : Nat) : List Char :=
  '\\' :: 'u' :: hexDigits 4 unit

/-- One character of a JSON string. -/
def jsonCharacter (character : Char) : List Char :=
  let code := character.toNat
  if character == '"' || character == '\\' then
    ['\\', character]
  else if ' ' ≤ character && character ≤ '~' then
    [character]
  else if character == '\n' then
    ['\\', 'n']
  else if character == '\r' then
    ['\\', 'r']
  else if character == '\t' then
    ['\\', 't']
  else if code = 8 then
    ['\\', 'b']
  else if code = 12 then
    ['\\', 'f']
  else if code < 0x10000 then
    jsonUnit code
  else
    jsonUnit (0xD800 + (code - 0x10000) / 0x400) ++ jsonUnit (0xDC00 + (code - 0x10000) % 0x400)

/-- A text as a JSON string. -/
def jsonString (text : String) : List Char :=
  '"' :: text.toList.flatMap jsonCharacter ++ ['"']

end Text

namespace Scalar

/-- A double as JSON text, with capital words for the values that are not finite. -/
def jsonDouble : Binary64 → String
  | .nan =>
      "NaN"
  | .infinite negative =>
      if negative then "-Infinity" else "Infinity"
  | value =>
      value.text

/-- The text of a scalar inside JSON, before a text is put between quotation marks. -/
def jsonWord : Scalar → String
  | .null =>
      "null"
  | .boolean value =>
      if value then "true" else "false"
  | .integer value =>
      toString value
  | .double value =>
      jsonDouble value
  | .text value =>
      value

/-- A scalar as JSON text. -/
def json : Scalar → List Char
  | .text value =>
      Text.jsonString value
  | value =>
      value.jsonWord.toList

/-- A key as JSON text: always a string. -/
def jsonKey (key : Scalar) : List Char :=
  Text.jsonString key.jsonWord

/-- Whether a key may stand before another in sorted order: numbers by size, texts by code point. -/
def keyAtMost : Scalar → Scalar → Bool
  | .text left, .text right =>
      !(right < left)
  | left, right =>
      match left.keyNumber?, right.keyNumber? with
      | some leftNumber, some rightNumber =>
          !rightNumber.less leftNumber
      | some _, none =>
          true
      | _, _ =>
          false

/-- Whether two different keys of one map can be put in order. -/
def keysComparable : Scalar → Scalar → Bool
  | .text _, .text _ =>
      true
  | left, right =>
      left.keyNumber?.isSome && right.keyNumber?.isSome

end Scalar

/-- Join pieces of text with a separator between them. -/
def joined (separator : List Char) : List (List Char) → List Char
  | [] =>
      []
  | [piece] =>
      piece
  | piece :: rest =>
      piece ++ separator ++ joined separator rest

namespace Value

mutual

/-- A value as JSON text. -/
def json (layout : JsonLayout) : Value → List Char
  | .scalar value =>
      value.json
  | .list items =>
      '[' :: joined layout.itemSeparator (jsonItems layout items) ++ [']']
  | .map entries =>
      let written := jsonEntries layout entries
      let ordered :=
        if layout.sorted then
          written.mergeSort fun left right => left.1.keyAtMost right.1
        else
          written
      '\x7b' :: joined layout.itemSeparator (ordered.map Prod.snd) ++ ['\x7d']

/-- The items of a list as JSON text. -/
def jsonItems (layout : JsonLayout) : List Value → List (List Char)
  | [] =>
      []
  | item :: rest =>
      json layout item :: jsonItems layout rest

/-- The entries of a map as JSON text, each with its key. -/
def jsonEntries (layout : JsonLayout) : List (Scalar × Value) → List (Scalar × List Char)
  | [] =>
      []
  | (key, value) :: rest =>
      (key, key.jsonKey ++ layout.keySeparator ++ json layout value) :: jsonEntries layout rest

end

/-- The compact JSON text with sorted keys. -/
def canonicalJson (value : Value) : String :=
  String.ofList (value.json .canonical)

/-- The JSON text with a blank after each separator and keys in their own order. -/
def spacedJson (value : Value) : String :=
  String.ofList (value.json .spaced)

/-- Whether the keys of one map can be put in order. -/
def keysSortable : List Scalar → Bool
  | [] =>
      true
  | key :: rest =>
      rest.all key.keysComparable && keysSortable rest

mutual

/-- Whether the keys of every map in a value can be put in order. -/
def isSortable : Value → Bool
  | .scalar _ =>
      true
  | .list items =>
      areSortable items
  | .map entries =>
      keysSortable (entries.map Prod.fst) && areEntriesSortable entries

/-- Whether the keys of every map in the items can be put in order. -/
def areSortable : List Value → Bool
  | [] =>
      true
  | item :: rest =>
      isSortable item && areSortable rest

/-- Whether the keys of every map in the entries' values can be put in order. -/
def areEntriesSortable : List (Scalar × Value) → Bool
  | [] =>
      true
  | (_, value) :: rest =>
      isSortable value && areEntriesSortable rest

end

end Value

end FleetConfig
