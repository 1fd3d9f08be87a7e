/-!
# Hexadecimal digits

Numbers in base sixteen with small letters, padded on the left to a fixed
number of digits, and back.
-/

namespace FleetConfig.Text

/-- The hexadecimal digit of a number below sixteen. -/
def hexDigit (number : Nat) : Char :=
  if number < 10 then
    Char.ofNat (48 + number)
  else
    Char.ofNat (87 + number)

/-- The last `width` hexadecimal digits of a number, most significant first. -/
def hexDigits : (width : Nat) → (number : Nat) → List Char
  | 0, _ =>
      []
  | width + 1, number =>
      hexDigits width (number / 16) ++ [hexDigit (number % 16)]

/-- The value of a hexadecimal digit in either letter case. -/
def hexValue? (character : Char) : Option Nat :=
  if '0' ≤ character && character ≤ '9' then
    some (character.toNat - 48)
  else if 'a' ≤ character && character ≤ 'f' then
    some (character.toNat - 87)
  else if 'A' ≤ character && character ≤ 'F' then
    some (character.toNat - 55)
  else
    none

/-- The number that a row of hexadecimal digits denotes. -/
def numberOfHex? (characters : List Char) : Option Nat :=
  characters.foldlM
    (fun total character => (hexValue? character).map (16 * total + ·)) 0

end FleetConfig.Text
