import FleetConfig.Number.Numeral
import FleetConfig.Text.Quoted

/-!
# Integers written as text

An integer is written with an optional sign and digits of any script between
blanks, which the information separators are not here; single underscores may
separate digits.  Texts with more than `integerDigitLimit` digits are refused,
even when something else is wrong after their digits.
-/

namespace FleetConfig

/-- Why a text is not an integer. -/
inductive IntegerTextError where
  | malformed (text : String)
  | tooManyDigits (count : Nat)
  | noDigits (base : Nat)
  deriving Repr, DecidableEq

namespace IntegerTextError

/-- The message for a text that is not an integer; it shows at most 200 characters of it. -/
def message : IntegerTextError → String
  | .malformed text =>
      "invalid literal for int() with base 10: " ++
        String.ofList ((Text.quoted text).toList.take 200)
  | .tooManyDigits count =>
      s!"Exceeds the limit ({integerDigitLimit} digits) for integer string conversion: " ++
        s!"value has {count} digits; use sys.set_int_max_str_digits() to increase the limit"
  | .noDigits base =>
      s!"invalid literal for int() with base {base}: ''"

end IntegerTextError

/-- Whether underscores stand only between two digits in a row of digits and underscores. -/
def underscoresSeparate : (characters : List Char) → Bool
  | [] =>
      true
  | ['_'] =>
      false
  | '_' :: '_' :: _ =>
      false
  | _ :: rest =>
      underscoresSeparate rest

/-- Read an integer. -/
def readInteger (text : String) : Except IntegerTextError Int :=
  let (negative, afterSign) :=
    Numeral.splitSign (Text.stripWhile Text.isBlankByNumber text.toList)
  let belongs := fun character => Text.isDigit character || character == '_'
  let row := afterSign.takeWhile belongs
  let digits := row.filter (· != '_')
  if row.head? == some '_' || !underscoresSeparate row then
    .error (.malformed text)
  else if integerDigitLimit < digits.length then
    .error (.tooManyDigits digits.length)
  else if digits.isEmpty || row.length != afterSign.length then
    .error (.malformed text)
  else
    .ok (Binary64.signed negative (Text.numberOfDigits digits))

end FleetConfig
