import FleetConfig.Document.Basic
import FleetConfig.Text.Hex

/-!
# Documents in JSON

JSON as it is commonly written, with three more words: `NaN`, `Infinity` and
`-Infinity`.  When a key is repeated in an object, its last value stands.  Every
reader takes the characters from where it starts and returns what it read with
the characters that are left; a budget of steps, which the length of the text
always covers, bounds the nesting.
-/

namespace FleetConfig.Json

/-- What a reader returns: a result with the characters that are left. -/
abbrev Step (α : Type) :=
  Except DocumentError (α × List Char)

/-- Drop the blanks that JSON allows between its parts. -/
def skipBlanks (characters : List Char) : List Char :=
  characters.dropWhile fun character =>
    character == ' ' || character == '\t' || character == '\n' || character == '\r'

/-- The unit that four hexadecimal digits denote. -/
def readUnit? : List Char → Option (Nat × List Char)
  | first :: second :: third :: fourth :: rest =>
      (Text.numberOfHex? [first, second, third, fourth]).map (·, rest)
  | _ =>
      none

/-- The character that a single-letter escape stands for. -/
def escaped? : Char → Option Char
  | '"' =>
      some '"'
  | '\\' =>
      some '\\'
  | '/' =>
      some '/'
  | 'b' =>
      some (Char.ofNat 8)
  | 'f' =>
      some (Char.ofNat 12)
  | 'n' =>
      some '\n'
  | 'r' =>
      some '\r'
  | 't' =>
      some '\t'
  | _ =>
      none

/-- Whether a unit is the first half of a pair. -/
def isHighHalf (unit : Nat) : Bool :=
  0xD800 ≤ unit && unit ≤ 0xDBFF

/-- Whether a unit is the second half of a pair. -/
def isLowHalf (unit : Nat) : Bool :=
  0xDC00 ≤ unit && unit ≤ 0xDFFF

/-- The character of a unit; a half without its partner becomes the replacement character. -/
def characterOfUnit (unit : Nat) : Char :=
  if isHighHalf unit || isLowHalf unit then Char.ofNat 0xFFFD else Char.ofNat unit

/-- Read a numbered escape after its `u`, joining two halves to one character. -/
def readNumberedEscape? (characters : List Char) : Option (Char × List Char) :=
  match readUnit? characters with
  | none =>
      none
  | some (unit, rest) =>
      match isHighHalf unit, rest with
      | true, '\\' :: 'u' :: more =>
          match readUnit? more with
          | some (low, afterPair) =>
              if isLowHalf low then
                some (Char.ofNat (0x10000 + (unit - 0xD800) * 0x400 + (low - 0xDC00)), afterPair)
              else
                some (characterOfUnit unit, rest)
          | none =>
              some (characterOfUnit unit, rest)
      | _, _ =>
          some (characterOfUnit unit, rest)

/-- Read a string after its opening quotation mark; the characters read come last first. -/
def readString (budget : Nat) (read : List Char) : List Char → Step String
  | [] =>
      .error .malformed
  | character :: rest =>
      match budget with
      | 0 =>
          .error .malformed
      | budget + 1 =>
          if character = '"' then
            .ok (String.ofList read.reverse, rest)
          else if character = '\\' then
            match rest with
            | 'u' :: digits =>
                match readNumberedEscape? digits with
                | some (escaped, afterEscape) =>
                    readString budget (escaped :: read) afterEscape
                | none =>
                    .error .malformed
            | letter :: afterEscape =>
                match escaped? letter with
                | some escaped =>
                    readString budget (escaped :: read) afterEscape
                | none =>
                    .error .malformed
            | [] =>
                .error .malformed
          else if character.toNat < 32 then
            .error .malformed
          else
            readString budget (character :: read) rest
termination_by structural budget

/-- Take ASCII digits off the front. -/
def splitAsciiDigits (characters : List Char) : List Char × List Char :=
  (characters.takeWhile Char.isDigit, characters.dropWhile Char.isDigit)

/-- Take a fraction off the front, if there is a point with a digit after it. -/
def splitFraction : List Char → Option (List Char) × List Char
  | '.' :: rest =>
      let (digits, after) := splitAsciiDigits rest
      if digits.isEmpty then (none, '.' :: rest) else (some digits, after)
  | characters =>
      (none, characters)

/-- Take an exponent off the front, if there is a mark with digits after it. -/
def splitExponent (characters : List Char) : Option (Bool × List Char) × List Char :=
  match characters with
  | mark :: rest =>
      if mark == 'e' || mark == 'E' then
        let (negative, afterSign) := Numeral.splitSign rest
        let (digits, after) := splitAsciiDigits afterSign
        if digits.isEmpty then (none, characters) else (some (negative, digits), after)
      else
        (none, characters)
  | [] =>
      (none, [])

/-- Take the whole part of a number off the front: a zero, or digits that start with another digit. -/
def splitWhole : List Char → List Char × List Char
  | '0' :: rest =>
      (['0'], rest)
  | characters =>
      splitAsciiDigits characters

/-- Read a number. -/
def readNumber (characters : List Char) : Step Value :=
  let (negative, afterSign) :=
    match characters with
    | '-' :: rest =>
        (true, rest)
    | _ =>
        (false, characters)
  let (whole, afterWhole) := splitWhole afterSign
  if whole.isEmpty then
    .error .malformed
  else
    let (fraction?, afterFraction) := splitFraction afterWhole
    let (exponent?, after) := splitExponent afterFraction
    let numeral : Numeral := ⟨negative, whole, fraction?, exponent?⟩
    if numeral.isWhole && integerDigitLimit < whole.length then
      .error (.unreadableInteger (.tooManyDigits whole.length))
    else
      match numeral.toNumber with
      | .integer value =>
          .ok (.integer value, after)
      | .double value =>
          .ok (.double value, after)

/-- The words that stand for values. -/
def words : List (String × Value) :=
  [("null", .null), ("true", .boolean true), ("false", .boolean false), ("NaN", .double .nan),
   ("Infinity", .double (.infinite false)), ("-Infinity", .double (.infinite true))]

/-- Read one of the words. -/
def readWord? (characters : List Char) : Option (Value × List Char) :=
  words.findSome? fun (word, value) =>
    if word.toList.isPrefixOf characters then
      some (value, characters.drop word.length)
    else
      none

mutual

/-- Read a value. -/
def readValue : (budget : Nat) → List Char → Step Value
  | 0, _ =>
      .error .malformed
  | budget + 1, characters =>
      match characters with
      | '"' :: rest =>
          (readString budget [] rest).map fun (text, after) => (.text text, after)
      | '[' :: rest =>
          match skipBlanks rest with
          | ']' :: after =>
              .ok (.list [], after)
          | start =>
              (readItems budget start).map fun (items, after) => (.list items, after)
      | '\x7b' :: rest =>
          match skipBlanks rest with
          | '\x7d' :: after =>
              .ok (.map [], after)
          | start =>
              (readEntries budget start).map fun (entries, after) =>
                (.map (Entries.ofList entries), after)
      | _ =>
          match readWord? characters with
          | some found =>
              .ok found
          | none =>
              readNumber characters

/-- Read the items of an array up to its end. -/
def readItems : (budget : Nat) → List Char → Step (List Value)
  | 0, _ =>
      .error .malformed
  | budget + 1, characters =>
      match readValue budget characters with
      | .error reason =>
          .error reason
      | .ok (item, after) =>
          match skipBlanks after with
          | ']' :: rest =>
              .ok ([item], rest)
          | ',' :: rest =>
              (readItems budget (skipBlanks rest)).map fun (items, afterItems) =>
                (item :: items, afterItems)
          | _ =>
              .error .malformed

/-- Read the entries of an object up to its end. -/
def readEntries : (budget : Nat) → List Char → Step Entries
  | 0, _ =>
      .error .malformed
  | budget + 1, characters =>
      match characters with
      | '"' :: afterQuote =>
          match readString budget [] afterQuote with
          | .error reason =>
              .error reason
          | .ok (key, afterKey) =>
              match skipBlanks afterKey with
              | ':' :: afterColon =>
                  match readValue budget (skipBlanks afterColon) with
                  | .error reason =>
                      .error reason
                  | .ok (value, after) =>
                      match skipBlanks after with
                      | '\x7d' :: rest =>
                          .ok ([(.text key, value)], rest)
                      | ',' :: rest =>
                          (readEntries budget (skipBlanks rest)).map fun (entries, afterEntries) =>
                            ((.text key, value) :: entries, afterEntries)
                      | _ =>
                          .error .malformed
              | _ =>
                  .error .malformed
      | _ =>
          .error .malformed

end

/-- Read a text that holds one value and blanks around it. -/
def read (text : String) : Except DocumentError Value :=
  let characters := skipBlanks text.toList
  match readValue (2 * characters.length + 2) characters with
  | .error reason =>
      .error reason
  | .ok (value, after) =>
      if (skipBlanks after).isEmpty then .ok value else .error .malformed

end FleetConfig.Json
