
/-!
# Places in a YAML text

A cursor is a place in a text with the characters from there on.  Line breaks are
single characters; a carriage return is none.
-/

namespace FleetConfig.Yaml

/-- A place in the text: the characters that are left and how far they are. -/
structure Cursor where
  rest : List Char
  index : Nat
  line : Nat
  column : Nat

/-- Whether a character ends a line. -/
def isBreak (character : Char) : Bool :=
  character == '\n' || character == '\x85' || character == '\u2028' || character == '\u2029'

/-- Whether a character is a space or a tab. -/
def isSpacing (character : Char) : Bool :=
  character == ' ' || character == '\t'

/-- Whether a line ends here. -/
def endsLine (character? : Option Char) : Bool :=
  character?.all isBreak

/-- Whether a line ends or a space follows here. -/
def endsWord (character? : Option Char) : Bool :=
  character?.all fun character => character == ' ' || isBreak character

/-- Whether a line ends or a space or a tab follows here. -/
def endsToken (character? : Option Char) : Bool :=
  character?.all fun character => isSpacing character || isBreak character

/-- Whether a character may occur in a text at all. -/
def isAllowed (character : Char) : Bool :=
  let code := character.toNat
  code == 0x9 || code == 0xA || code == 0xD || (0x20 ≤ code && code ≤ 0x7E) || code == 0x85 ||
    (0xA0 ≤ code && code ≤ 0xFFFD) || 0x10000 ≤ code

/-- Whether a character may occur in the name of an anchor or a handle. -/
def isNameCharacter (character : Char) : Bool :=
  character.isAlphanum || character == '-' || character == '_'

/-- Whether a character may occur in the rest of a tag. -/
def isTagCharacter (character : Char) : Bool :=
  character.isAlphanum || "-;/?:@&=+$,_.!~*'()[]%".toList.contains character

namespace Cursor

/-- The place after one character. -/
def next (cursor : Cursor) : Cursor :=
  match cursor.rest with
  | [] =>
      cursor
  | character :: rest =>
      if isBreak character then
        ⟨rest, cursor.index + 1, cursor.line + 1, 0⟩
      else if character == '\uFEFF' then
        ⟨rest, cursor.index + 1, cursor.line, cursor.column⟩
      else
        ⟨rest, cursor.index + 1, cursor.line, cursor.column + 1⟩

/-- The place after some characters. -/
def advance (cursor : Cursor) : (count : Nat) → Cursor
  | 0 =>
      cursor
  | count + 1 =>
      cursor.next.advance count

/-- Whether three hyphens or three periods stand here by themselves. -/
def atDocumentMark (cursor : Cursor) : Bool :=
  (cursor.rest.take 3 == ['-', '-', '-'] || cursor.rest.take 3 == ['.', '.', '.']) &&
    endsToken cursor.rest[3]?

end Cursor

end FleetConfig.Yaml
