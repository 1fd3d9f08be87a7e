import FleetConfig.Number.Binary64

/-!
# Shortest decimal digits

The text of a double holds the fewest decimal digits that read back as the same
double, and of those the nearest to it.  `digits?` looks for them on decimal
grids of one, two, … digits: if a point of a grid reads back, so does one of the
two neighbours of the double on that grid.  `text` lays the digits out:
positionally when the point falls within sixteen digits after or three zeros
before the first digit, and with an exponent otherwise.
-/

namespace FleetConfig.Binary64

/-- Decimal digits `0.d₁d₂…` times ten to the power `point`. -/
structure Decimal where
  digits : List Char
  point : Int
  deriving Repr, DecidableEq

/-- The power of ten above the given units of 2^-1074: `units < 10 ^ point`, and no less will do. -/
def decimalPoint (units : Nat) : Int :=
  ((Nat.toDigits 10 (units * Nat.pow 10 400 / unitsInOne)).length : Int) - 400

/--
Whether `number * 10 ^ exponent` lies between the midpoints to the neighbours of
a magnitude; the midpoints themselves round to the even magnitude.
-/
def readsBack
    (magnitude number : Nat)
    (exponent : Int) :
    Bool :=
  let scaled := 2 * number * Nat.pow 10 exponent.toNat * unitsInOne
  let scale := Nat.pow 10 (-exponent).toNat
  let low := (unitsOf (magnitude - 1) + unitsOf magnitude) * scale
  let high := (unitsOf magnitude + unitsOf (magnitude + 1)) * scale
  if magnitude % 2 = 0 then
    low ≤ scaled && scaled ≤ high
  else
    low < scaled && scaled < high

/-- The neighbours of a magnitude on the grid of a number of digits, the nearer first. -/
def neighbours
    (magnitude : Nat)
    (exponent : Int) :
    List Nat :=
  let units := unitsOf magnitude
  let numerator := units * Nat.pow 10 (-exponent).toNat
  let denominator := unitsInOne * Nat.pow 10 exponent.toNat
  let below := numerator / denominator
  if roundedQuotient numerator denominator = below then
    [below, below + 1]
  else
    [below + 1, below]

/-- The decimal of a grid point without the zeros at its end. -/
def trimmed
    (number : Nat)
    (exponent : Int) :
    Decimal :=
  let characters := Nat.toDigits 10 number
  ⟨(characters.reverse.dropWhile (· == '0')).reverse, characters.length + exponent⟩

/-- The shortest decimal that reads back, looked for from `count` digits on. -/
def shortestFrom
    (magnitude : Nat)
    (point : Int) :
    (attempts count : Nat) → Option Decimal
  | 0, _ =>
      none
  | attempts + 1, count =>
      let exponent := point - count
      match (neighbours magnitude exponent).find? (readsBack magnitude · exponent) with
      | some number =>
          some (trimmed number exponent)
      | none =>
          shortestFrom magnitude point attempts (count + 1)

/-- The shortest decimal that reads back as a magnitude; seventeen digits always do. -/
def shortest (magnitude : Nat) : Decimal :=
  (shortestFrom magnitude (decimalPoint (unitsOf magnitude)) 17 1).getD ⟨[], 0⟩

/-- An exponent with its sign and at least two digits. -/
def exponentText (exponent : Int) : List Char :=
  let digits := Nat.toDigits 10 exponent.natAbs
  (if exponent < 0 then '-' else '+') ::
    (if digits.length < 2 then '0' :: digits else digits)

/-- Lay digits out positionally or with an exponent. -/
def layOut (decimal : Decimal) : List Char :=
  let count : Int := decimal.digits.length
  if decimal.point ≤ -4 || 16 < decimal.point then
    let mantissa :=
      match decimal.digits with
      | [] =>
          []
      | [digit] =>
          [digit]
      | digit :: rest =>
          digit :: '.' :: rest
    mantissa ++ 'e' :: exponentText (decimal.point - 1)
  else if decimal.point ≤ 0 then
    '0' :: '.' :: List.replicate (-decimal.point).toNat '0' ++ decimal.digits
  else if count ≤ decimal.point then
    decimal.digits ++ List.replicate (decimal.point - count).toNat '0' ++ ['.', '0']
  else
    decimal.digits.take decimal.point.toNat ++ '.' :: decimal.digits.drop decimal.point.toNat

/-- The text of a finite magnitude. -/
def magnitudeText (magnitude : Nat) : List Char :=
  if magnitude = 0 then
    ['0', '.', '0']
  else
    layOut (shortest magnitude)

/-- The text of a double, with small words for the values that are not finite. -/
def text : Binary64 → String
  | .nan =>
      "nan"
  | .infinite negative =>
      if negative then "-inf" else "inf"
  | .finite negative magnitude =>
      String.ofList ((if negative then ['-'] else []) ++ magnitudeText magnitude)

end FleetConfig.Binary64
