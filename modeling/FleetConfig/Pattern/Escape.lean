import FleetConfig.Pattern.Reader
import FleetConfig.Text.CharacterName

/-!
# Escapes in patterns

After a backslash a letter names a character, a category or an anchor, and digits
name a character or refer to a group.
-/

namespace FleetConfig.Pattern

open Reader

/-- Whether a character is an octal digit. -/
def isOctal (character : Char) : Bool :=
  '0' ≤ character && character ≤ '7'

/-- Whether a character is a hexadecimal digit. -/
def isHexadecimal (character : Char) : Bool :=
  (Text.hexValue? character).isSome

/-- The number that octal digits denote. -/
def numberOfOctal (digits : List Char) : Nat :=
  digits.foldl (fun total digit => 8 * total + (digit.toNat - 48)) 0

/-- The code point that a letter names after a backslash. -/
def controlCode? : Char → Option Nat
  | 'a' =>
      some 7
  | 'b' =>
      some 8
  | 'f' =>
      some 12
  | 'n' =>
      some 10
  | 'r' =>
      some 13
  | 't' =>
      some 9
  | 'v' =>
      some 11
  | '\\' =>
      some 92
  | _ =>
      none

/-- The category that a letter names after a backslash. -/
def category? : Char → Option SetItem
  | 'd' =>
      some (.category .digit false)
  | 'D' =>
      some (.category .digit true)
  | 's' =>
      some (.category .blank false)
  | 'S' =>
      some (.category .blank true)
  | 'w' =>
      some (.category .word false)
  | 'W' =>
      some (.category .word true)
  | _ =>
      none

/-- The anchor that a letter names after a backslash. -/
def anchor? : Char → Option Anchor
  | 'A' =>
      some .textStart
  | 'Z' =>
      some .textEnd
  | 'b' =>
      some .boundary
  | 'B' =>
      some .noBoundary
  | _ =>
      none

/-- Read the hexadecimal digits of an escape, which has to have all of them; gives it as written and its code. -/
def readHexEscape
    (letter : Char)
    (count : Nat) :
    Reader (List Char × Nat) := do
  let digits ← takeUpTo isHexadecimal count
  let escape := '\\' :: letter :: digits
  if digits.length < count then
    refuse (.incompleteEscape (String.ofList escape)) escape.length
  else
    return (escape, (Text.numberOfHex? digits).getD 0)

/-- Read an escape that names a code point by number or by name, if the letter says so. -/
def readCodeEscape? (letter : Char) : Reader (Option Nat) := do
  match letter with
  | 'x' =>
      return some (← readHexEscape letter 2).2
  | 'u' =>
      return some (← readHexEscape letter 4).2
  | 'U' =>
      let (escape, code) ← readHexEscape letter 8
      if 0x7FFFFFFF < code then
        stop .codePointTooLarge
      else if 0x10FFFF < code then
        refuse (.badEscape (String.ofList escape)) escape.length
      else
        return some code
  | 'N' =>
      if ← accept '\x7b' then
        let name ← takeName '\x7d' "character name"
        match Text.codeNamed? name with
        | some code =>
            return some code
        | none =>
            refuse (.unknownCharacterName name) (name.length + 4)
      else
        refuse (.missing "\x7b")
  | _ =>
      return none

/-- Refuse an octal escape above the range of a byte. -/
def octalCode (digits : List Char) : Reader Nat := do
  let code := numberOfOctal digits
  if 0o377 < code then
    refuse (.octalOutOfRange (String.ofList ('\\' :: digits))) (digits.length + 1)
  else
    return code

/-- Refuse an escape as a whole. -/
def refuseEscape (escape : List Char) : Reader α :=
  refuse (.badEscape (String.ofList escape)) escape.length

/-- Read an escape inside a set of characters, after its token. -/
def readSetEscape (letter : Char) : Reader SetItem := do
  match controlCode? letter, category? letter with
  | some code, _ =>
      return .single code
  | none, some item =>
      return item
  | none, none =>
      match ← readCodeEscape? letter with
      | some code =>
          return .single code
      | none =>
          if isOctal letter then
            return .single (← octalCode (letter :: (← takeUpTo isOctal 2)))
          else if letter.isAlphanum then
            refuseEscape ['\\', letter]
          else
            return .single letter.toNat

/-- Whether a group has been closed. -/
def isClosed
    (progress : Progress)
    (group : Nat) :
    Bool :=
  ((progress.widths[group]?).bind id).isSome

/-- Refuse a reference, inside a look-behind, to a group that is open or part of it. -/
def checkLookBehind (group : Nat) : Reader Unit := do
  let progress ← get
  match progress.lookBehindGroups? with
  | none =>
      return ()
  | some first =>
      if !isClosed progress group then
        refuse .openGroup
      else if first ≤ group then
        refuse .groupInSameLookBehind

/-- Refer to a group; the escape or the name that refers to it has the given length. -/
def referTo
    (group length : Nat) :
    Reader Node := do
  match ((← get).widths[group]?).bind id with
  | none =>
      refuse .openGroup length
  | some width =>
      checkLookBehind group
      return .backreference group width

/-- Read an octal escape or a reference to a group by number. -/
def readNumberEscape (first : Char) : Reader Node := do
  let second ← takeUpTo Char.isDigit 1
  let third ←
    if isOctal first && second.any isOctal then
      takeUpTo isOctal 1
    else
      pure []
  let digits := first :: second ++ third
  if digits.length = 3 then
    return .character (← octalCode digits)
  else
    let group := Text.numberOfDigits digits
    if group < (← get).widths.length then
      referTo group (digits.length + 1)
    else
      refuse (.unknownGroup group) digits.length

/-- Read an escape outside of sets, after its token. -/
def readEscape (letter : Char) : Reader Node := do
  match anchor? letter, category? letter, controlCode? letter with
  | some anchor, _, _ =>
      return .anchor anchor
  | none, some item, _ =>
      return .set false [item]
  | none, none, some code =>
      return .character code
  | none, none, none =>
      match ← readCodeEscape? letter with
      | some code =>
          return .character code
      | none =>
          if letter = '0' then
            return .character (numberOfOctal ('0' :: (← takeUpTo isOctal 2)))
          else if letter.isDigit then
            readNumberEscape letter
          else if letter.isAlpha then
            refuseEscape ['\\', letter]
          else
            return .character letter.toNat

end FleetConfig.Pattern
