import FleetConfig.Number.Shortest
import FleetConfig.Text.Blank
import FleetConfig.Text.Digit

/-!
# Numerals

The decimal numerals that facts and rule values may spell numbers with: an
optional sign, digits of any script with an optional fraction or a fraction
alone, and an optional exponent, between blanks.  A numeral without fraction and
exponent denotes an integer unless it has more than `integerDigitLimit` digits;
every other numeral denotes the nearest double.
-/

namespace FleetConfig

/-- The largest number of digits in the text of an integer. -/
def integerDigitLimit : Nat :=
  4300

/-- The parts of a decimal numeral. -/
structure Numeral where
  negative : Bool
  whole : List Char
  fraction? : Option (List Char)
  exponent? : Option (Bool × List Char)
  deriving Repr, DecidableEq

/-- A number: an integer of any size or a double. -/
inductive Number where
  | integer (value : Int)
  | double (value : Binary64)
  deriving Repr, DecidableEq

namespace Numeral

/-- Take a sign off the front; `true` stands for a minus. -/
def splitSign : List Char → Bool × List Char
  | '+' :: rest =>
      (false, rest)
  | '-' :: rest =>
      (true, rest)
  | characters =>
      (false, characters)

/-- Take the digits off the front. -/
def splitDigits (characters : List Char) : List Char × List Char :=
  (characters.takeWhile Text.isDigit, characters.dropWhile Text.isDigit)

/-- Read an exponent that takes up all characters; nothing at all is no exponent. -/
def readExponent? : List Char → Option (Option (Bool × List Char))
  | [] =>
      some none
  | mark :: rest =>
      if mark == 'e' || mark == 'E' then
        let (negative, afterSign) := splitSign rest
        let (digits, after) := splitDigits afterSign
        if digits.isEmpty || !after.isEmpty then none else some (some (negative, digits))
      else
        none

/-- Read a numeral that takes up all characters. -/
def readAll? (characters : List Char) : Option Numeral :=
  let (negative, afterSign) := splitSign characters
  let (whole, afterWhole) := splitDigits afterSign
  match afterWhole with
  | '.' :: afterPoint =>
      let (fraction, after) := splitDigits afterPoint
      if whole.isEmpty && fraction.isEmpty then
        none
      else
        (readExponent? after).map fun exponent? =>
          ⟨negative, whole, some fraction, exponent?⟩
  | _ =>
      if whole.isEmpty then
        none
      else
        (readExponent? afterWhole).map fun exponent? =>
          ⟨negative, whole, none, exponent?⟩

/-- Read a numeral between blanks. -/
def read? (text : String) : Option Numeral :=
  readAll? (Text.stripBlanks text.toList)

/-- The power of ten that a numeral's digits, written without a point, are scaled by. -/
def scale (numeral : Numeral) : Int :=
  let exponent : Int :=
    match numeral.exponent? with
    | some (negative, digits) =>
        Binary64.signed negative (Text.numberOfDigits digits)
    | none =>
        0
  exponent - (numeral.fraction?.getD []).length

/-- The double nearest to a numeral. -/
def toBinary64 (numeral : Numeral) : Binary64 :=
  Binary64.ofDecimal numeral.negative
    (Text.numberOfDigits (numeral.whole ++ numeral.fraction?.getD [])) numeral.scale

/-- Whether a numeral has neither a fraction nor an exponent. -/
def isWhole (numeral : Numeral) : Bool :=
  numeral.fraction?.isNone && numeral.exponent?.isNone

/-- The number that a numeral denotes. -/
def toNumber (numeral : Numeral) : Number :=
  if numeral.isWhole && numeral.whole.length ≤ integerDigitLimit then
    .integer (Binary64.signed numeral.negative (Text.numberOfDigits numeral.whole))
  else
    .double numeral.toBinary64

end Numeral

namespace Number

/-- A point of the number line with its two ends, counted in units of 2^-1074. -/
inductive Position where
  | below
  | units (count : Int)
  | above
  deriving Repr, DecidableEq

namespace Position

/-- Whether one position lies before another. -/
def precedes : Position → Position → Bool
  | .below, .below =>
      false
  | .below, _ =>
      true
  | .units left, .units right =>
      left < right
  | .units _, .above =>
      true
  | _, _ =>
      false

end Position

/-- Where a number lies on the number line; only not-a-number lies nowhere. -/
def position? : Number → Option Position
  | .integer value =>
      some (.units (value * Binary64.unitsInOne))
  | .double .nan =>
      none
  | .double (.infinite negative) =>
      some (if negative then .below else .above)
  | .double (.finite negative magnitude) =>
      some (.units (Binary64.signed negative (Binary64.unitsOf magnitude)))

/-- Whether a relation holds between the positions of two numbers; it fails without positions. -/
def related
    (relation : Number.Position → Number.Position → Bool)
    (left right : Number) :
    Bool :=
  match left.position?, right.position? with
  | some leftPosition, some rightPosition =>
      relation leftPosition rightPosition
  | _, _ =>
      false

/-- Whether two numbers are equal in value. -/
def equal (left right : Number) : Bool :=
  related (· == ·) left right

/-- Whether one number is less than another. -/
def less (left right : Number) : Bool :=
  related Position.precedes left right

/-- Whether one number is less than or equal to another. -/
def lessOrEqual (left right : Number) : Bool :=
  left.less right || left.equal right

end Number

end FleetConfig
