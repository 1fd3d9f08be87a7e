import FleetConfig.Text.Blank
import FleetConfig.Text.Case

/-!
# Marked-up text

Text for the screen may hold marks in brackets that open a style, such as
`[bold]`, or close one, such as `[/bold]`.  Showing the text takes the marks out;
closing a style that is not open is a mistake.  A backslash before a mark makes
it part of the text.
-/

namespace FleetConfig.Markup

/-- A part of a marked-up text. -/
inductive Piece where
  | character (character : Char)
  | mark (inside : List Char)
  deriving Repr, DecidableEq

/-- Whether the inside of a pair of brackets that begins with a character can be a mark. -/
def beginsMark (character : Char) : Bool :=
  ('a' ≤ character && character ≤ 'z') || ['#', '/', '@'].contains character

/-- The inside of the mark that begins before the characters, if one does. -/
def insideMark? (characters : List Char) : Option (List Char) :=
  let inside := characters.takeWhile fun character => character != '[' && character != ']'
  if inside.head?.any beginsMark && characters[inside.length]? == some ']' then
    some inside
  else
    none

/-- The parts of a text, of which the first `skipped` characters are passed over. -/
def piecesAfter : (skipped : Nat) → List Char → List Piece
  | _, [] =>
      []
  | skipped + 1, _ :: rest =>
      piecesAfter skipped rest
  | 0, character :: rest =>
      match if character == '[' then insideMark? rest else none with
      | some inside =>
          .mark inside :: piecesAfter (inside.length + 1) rest
      | none =>
          .character character :: piecesAfter 0 rest

/-- The parts of a text. -/
def pieces (text : String) : List Piece :=
  piecesAfter 0 text.toList

/-- A mark as it is written. -/
def written (inside : List Char) : List Char :=
  '[' :: inside ++ [']']

/-- Some backslashes. -/
def backslashes (count : Nat) : List Char :=
  List.replicate count '\\'

/-- The name of a style without regard to letter case and blanks around it. -/
def styleName (characters : List Char) : String :=
  Text.lower (Text.strip (String.ofList characters))

/-- The open styles, innermost first, after a mark; none if it closes a style that is not open. -/
def afterMark
    (openStyles : List String)
    (inside : List Char) :
    Option (List String) :=
  match inside.takeWhile (· != '=') with
  | '/' :: closed =>
      let name := styleName closed
      if name.isEmpty then
        openStyles.tail?
      else if openStyles.contains name then
        some (openStyles.erase name)
      else
        none
  | name =>
      some (styleName name :: openStyles)

/-- What is shown of parts that come after some backslashes; two backslashes before a mark show one. -/
def shown (openStyles : List String) (pending : Nat) : List Piece → Option (List Char)
  | [] =>
      some (backslashes pending)
  | .mark inside :: rest =>
      if pending % 2 == 1 then
        (shown openStyles 0 rest).map fun after =>
          backslashes (pending / 2) ++ written inside ++ after
      else
        match afterMark openStyles inside with
        | some stillOpen =>
            (shown stillOpen 0 rest).map (backslashes (pending / 2) ++ ·)
        | none =>
            none
  | .character character :: rest =>
      if character == '\\' then
        shown openStyles (pending + 1) rest
      else
        let before := if character == '[' then pending - 1 else pending
        (shown openStyles 0 rest).map fun after => backslashes before ++ character :: after

/-- Whether a character is left out: a bell, a backspace, a vertical tab, a form feed or a carriage return. -/
def isLeftOut (character : Char) : Bool :=
  [7, 8, 11, 12, 13].contains character.toNat

/-- What is shown of a text; nothing if a mark closes a style that is not open. -/
def plain? (text : String) : Option String :=
  (shown [] 0 (pieces text)).map fun characters =>
    String.ofList (characters.filter fun character => !isLeftOut character)

/-- Parts that come after some backslashes, with every mark made part of the text. -/
def escaped (pending : Nat) : List Piece → List Char
  | [] =>
      backslashes pending
  | .mark inside :: rest =>
      backslashes (2 * pending + 1) ++ written inside ++ escaped 0 rest
  | .character character :: rest =>
      if character == '\\' then
        escaped (pending + 1) rest
      else
        backslashes pending ++ character :: escaped 0 rest

/-- A text with every mark made part of it. -/
def escape (text : String) : String :=
  String.ofList (escaped 0 (pieces text))

end FleetConfig.Markup
