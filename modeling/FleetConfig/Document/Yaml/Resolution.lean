import FleetConfig.Document.Basic
import FleetConfig.Number.Numeral
import FleetConfig.Text.Case
import FleetConfig.Text.Hex

/-!
# What plain scalars mean

A plain scalar means what it looks like: nothing, a truth value, an integer, a
double, or else a text.  Integers may be written in base two, eight and sixteen
and, like doubles, in base sixty with colons; underscores between digits do not
count.
-/

namespace FleetConfig.Yaml

/-- What a scalar means. -/
inductive Meaning where
  | text
  | null
  | boolean
  | integer
  | double
  | mergeKey
  | valueKey
  deriving Repr, DecidableEq

/-- Drop a sign from the front; `true` stands for a minus. -/
def splitSign (characters : List Char) : Bool × List Char :=
  Numeral.splitSign characters

/-- Whether a character is a digit below a base up to ten, or an underscore. -/
def isDigitOrGap
    (base : Nat)
    (character : Char) :
    Bool :=
  (character.isDigit && character.toNat - 48 < base) || character == '_'

/-- Whether characters are one or two digits below sixty. -/
def isSixtieth : List Char → Bool
  | [digit] =>
      digit.isDigit
  | [tens, ones] =>
      tens.isDigit && tens < '6' && ones.isDigit
  | _ =>
      false

/-- Split characters at each occurrence of a separator. -/
def splitAt (separator : Char) : List Char → List (List Char)
  | [] =>
      [[]]
  | character :: rest =>
      match splitAt separator rest with
      | [] =>
          [[character]]
      | first :: others =>
          if character = separator then
            [] :: first :: others
          else
            (character :: first) :: others

/-- Whether characters are a decimal number that does not begin with zero. -/
def isDecimal : List Char → Bool
  | [] =>
      false
  | first :: rest =>
      first.isDigit && first != '0' && rest.all (isDigitOrGap 10)

/-- Whether characters without a sign look like an integer. -/
def looksInteger (characters : List Char) : Bool :=
  match characters with
  | ['0'] =>
      true
  | '0' :: 'b' :: rest =>
      !rest.isEmpty && rest.all (isDigitOrGap 2)
  | '0' :: 'x' :: rest =>
      !rest.isEmpty && rest.all fun character =>
        (Text.hexValue? character).isSome || character == '_'
  | '0' :: rest =>
      rest.all (isDigitOrGap 8)
  | _ =>
      match splitAt ':' characters with
      | [] =>
          false
      | first :: sixtieths =>
          isDecimal first && sixtieths.all isSixtieth

/-- Whether characters are nothing or an exponent, which has to have a sign. -/
def isExponentOrNothing : List Char → Bool
  | [] =>
      true
  | mark :: sign :: digits =>
      (mark == 'e' || mark == 'E') && (sign == '+' || sign == '-') &&
        !digits.isEmpty && digits.all Char.isDigit
  | _ =>
      false

/-- Whether characters begin with a digit and hold only digits and underscores. -/
def isDigits : List Char → Bool
  | [] =>
      false
  | first :: rest =>
      first.isDigit && rest.all (isDigitOrGap 10)

/-- Whether characters without a sign look like a double that is finite. -/
def looksDouble
    (isSigned : Bool)
    (characters : List Char) :
    Bool :=
  let whole := characters.takeWhile (· != '.')
  match characters.dropWhile (· != '.') with
  | [] =>
      false
  | _ :: afterPoint =>
      let fraction := afterPoint.takeWhile (isDigitOrGap 10)
      let rest := afterPoint.dropWhile (isDigitOrGap 10)
      if whole.isEmpty then
        !isSigned && isDigits fraction && isExponentOrNothing rest
      else if isDigits whole then
        isExponentOrNothing rest
      else
        match splitAt ':' whole with
        | first :: sixtieths =>
            isDigits first && sixtieths.all isSixtieth && rest.isEmpty
        | [] =>
            false

/-- The words for truth values. -/
def truthWords : List (String × Bool) :=
  [("yes", true), ("no", false), ("true", true), ("false", false), ("on", true), ("off", false)]

/-- The ways to write a word: small, with a first capital, and in capitals. -/
def writings (word : String) : List String :=
  [word, String.ofList (match word.toList with
    | first :: rest =>
        first.toUpper :: rest
    | [] =>
        []), word.toUpper]

/-- Whether a text is written like a truth value. -/
def looksBoolean (text : String) : Bool :=
  truthWords.any fun (word, _) => (writings word).contains text

/-- Whether characters without a sign are the word for infinity. -/
def looksInfinite (characters : List Char) : Bool :=
  [".inf", ".Inf", ".INF"].contains (String.ofList characters)

/-- What a plain scalar means. -/
def meaningOf (text : String) : Meaning :=
  let (_, unsigned) := splitSign text.toList
  let isSigned := unsigned.length < text.length
  if ["", "~", "null", "Null", "NULL"].contains text then
    .null
  else if looksBoolean text then
    .boolean
  else if looksInteger unsigned then
    .integer
  else if looksDouble isSigned unsigned || looksInfinite unsigned ||
      [".nan", ".NaN", ".NAN"].contains text then
    .double
  else if text = "<<" then
    .mergeKey
  else if text = "=" then
    .valueKey
  else
    .text

/-- The number that digits in a base denote; there has to be a digit. -/
def inBase
    (base : Nat)
    (digits : List Char) :
    Except IntegerTextError Nat :=
  if digits.isEmpty then
    .error (.noDigits base)
  else
    .ok (digits.foldl (fun total digit => base * total + (Text.hexValue? digit).getD 0) 0)

/-- The number that decimal digits denote; there may not be too many. -/
def inDecimal (digits : List Char) : Except IntegerTextError Nat :=
  if integerDigitLimit < digits.length then
    .error (.tooManyDigits digits.length)
  else
    inBase 10 digits

/-- The number that parts in base sixty denote. -/
def inSixties (parts : List (List Char)) : Except IntegerTextError Nat :=
  parts.foldlM (fun total part => (inDecimal part).map (60 * total + ·)) 0

/-- The number that an integer without sign and underscores denotes. -/
def magnitudeOf (digits : List Char) : Except IntegerTextError Nat :=
  match digits with
  | ['0'] =>
      .ok 0
  | '0' :: 'b' :: rest =>
      inBase 2 rest
  | '0' :: 'x' :: rest =>
      inBase 16 rest
  | '0' :: rest =>
      inBase 8 ('0' :: rest)
  | _ =>
      if digits.contains ':' then
        inSixties (splitAt ':' digits)
      else
        inDecimal digits

/-- The integer that a text denotes. -/
def integerOf (text : String) : Except IntegerTextError Int :=
  let (negative, digits) := splitSign (text.toList.filter (· != '_'))
  (magnitudeOf digits).map (Binary64.signed negative)

/-- The units of the double nearest to a fraction. -/
def nearestUnits (numerator denominator : Nat) : Nat :=
  Binary64.unitsOf (Binary64.nearestMagnitude numerator denominator)

/-- Add a higher part in base sixty to the units of a double; the sum is a double again. -/
def addSixtieth
    (sum : Nat × Nat)
    (part : List Char) :
    Nat × Nat :=
  let (units, weight) := sum
  let whole := Text.numberOfDigits part * weight
  (nearestUnits (units + whole * Binary64.unitsInOne) Binary64.unitsInOne, 60 * weight)

/-- The double that a text in base sixty denotes. -/
def doubleInSixties
    (negative : Bool)
    (characters : List Char) :
    Binary64 :=
  let fraction := (characters.dropWhile (· != '.')).drop 1
  match (splitAt ':' (characters.takeWhile (· != '.'))).reverse with
  | [] =>
      .zero negative
  | last :: higher =>
      let scale := Nat.pow 10 fraction.length
      let digits := Text.numberOfDigits last * scale + Text.numberOfDigits fraction
      let (units, _) := higher.foldl addSixtieth (nearestUnits digits scale, 60)
      .ofMagnitude negative (Binary64.nearestMagnitude units Binary64.unitsInOne)

/-- The double that a text denotes. -/
def doubleOf? (text : String) : Option Binary64 :=
  let (negative, characters) := splitSign (text.toList.filter (· != '_'))
  let word := Text.lower (String.ofList characters)
  if word = ".inf" then
    some (.infinite negative)
  else if word = ".nan" then
    some .nan
  else if characters.contains ':' then
    some (doubleInSixties negative characters)
  else
    (Numeral.readAll? characters).map fun numeral =>
      { numeral with negative }.toBinary64

/-- The truth value that a text denotes. -/
def booleanOf? (text : String) : Option Bool :=
  truthWords.lookup (Text.lower text)

end FleetConfig.Yaml
