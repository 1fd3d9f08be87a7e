/-!
# Double-precision numbers

A double is not a number, an infinity, or a finite number with a sign and a
magnitude.  Magnitudes are numbered upwards from zero in order of size, so the
next double is the next number.  Every finite double is a whole number of
`units` of 2^-1074, which turns comparison and rounding into questions about
integers.
-/

namespace FleetConfig

/-- The number of magnitudes in a binade. -/
def binadeSize : Nat :=
  Nat.pow 2 52

/-- The number of finite magnitudes, in 2047 binades. -/
def magnitudeCount : Nat :=
  2047 * binadeSize

/-- A double-precision number. -/
inductive Binary64 where
  | nan
  | infinite (negative : Bool)
  | finite (negative : Bool) (magnitude : Fin magnitudeCount)
  deriving Repr, DecidableEq

namespace Binary64

/-- The units of 2^-1074 in one. -/
def unitsInOne : Nat :=
  Nat.pow 2 1074

/-- The units of 2^-1074 in the finite number with the given magnitude. -/
def unitsOf (magnitude : Nat) : Nat :=
  if magnitude < binadeSize then
    magnitude
  else
    (binadeSize + magnitude % binadeSize) * Nat.pow 2 (magnitude / binadeSize - 1)

/-- Negate a whole number when asked to. -/
def signed (negative : Bool) (number : Nat) : Int :=
  if negative then -(number : Int) else number

/-- The units of 2^-1074 in a finite double. -/
def units? : Binary64 → Option Int
  | .finite negative magnitude =>
      some (signed negative (unitsOf magnitude))
  | _ =>
      none

/-- Divide, rounding to the nearest whole number and halves to the even one. -/
def roundedQuotient (numerator denominator : Nat) : Nat :=
  let quotient := numerator / denominator
  let double := 2 * (numerator % denominator)
  if double < denominator then
    quotient
  else if denominator < double then
    quotient + 1
  else
    quotient + quotient % 2

/--
The magnitude nearest to a positive fraction, ties to the even magnitude.  The
binade is found from the whole units in the fraction; rounding up past its end
gives the first magnitude of the next binade.
-/
def nearestMagnitude (numerator denominator : Nat) : Nat :=
  let wholeUnits := numerator * unitsInOne / denominator
  let shift := wholeUnits.log2 - 52
  shift * binadeSize +
    roundedQuotient (numerator * unitsInOne) (denominator * Nat.pow 2 shift)

/-- The double with a magnitude, which is infinite past the last finite one. -/
def ofMagnitude
    (negative : Bool)
    (magnitude : Nat) :
    Binary64 :=
  if bounded : magnitude < magnitudeCount then
    .finite negative ⟨magnitude, bounded⟩
  else
    .infinite negative

/-- Zero with a sign. -/
def zero (negative : Bool) : Binary64 :=
  ofMagnitude negative 0

/--
The double nearest to `digits * 10 ^ exponent`.  An exponent above 400 exceeds
every finite double, and one below `-(400 + log2 digits)` falls short of half a
unit, so neither power is computed.
-/
def ofDecimal
    (negative : Bool)
    (digits : Nat)
    (exponent : Int) :
    Binary64 :=
  if digits = 0 then
    zero negative
  else if exponent > 400 then
    .infinite negative
  else if exponent < -(400 + (digits.log2 : Int)) then
    zero negative
  else
    ofMagnitude negative
      (nearestMagnitude (digits * Nat.pow 10 exponent.toNat) (Nat.pow 10 (-exponent).toNat))

/-- The integer that a double is equal to. -/
def integer? (double : Binary64) : Option Int :=
  double.units?.bind fun units =>
    if units % unitsInOne = 0 then some (units / unitsInOne) else none

/-- Whether a double is neither infinite nor not-a-number. -/
def isFinite : Binary64 → Bool
  | .finite .. =>
      true
  | _ =>
      false

end Binary64

end FleetConfig
