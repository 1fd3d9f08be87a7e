import FleetConfig.Text.Hex

/-!
# Identifiers for rules

Rules without an identifier are given one from a supply, each in its turn.  Nothing
is required of the identifiers in a supply.  The usual ones stand for numbers.
-/

namespace FleetConfig

/-- Identifiers that are handed out one after the other. -/
structure IdSupply where
  id : Nat → String

namespace IdSupply

/-- What is left of a supply after some turns. -/
def after
    (supply : IdSupply)
    (turns : Nat) :
    IdSupply :=
  ⟨fun turn => supply.id (turns + turn)⟩

/-- The identifier that a number stands for: 32 hexadecimal digits in five groups. -/
def numberedId (number : Nat) : String :=
  let digits := Text.hexDigits 32 number
  let group := fun start length => String.ofList ((digits.drop start).take length)
  "-".intercalate [group 0 8, group 8 4, group 12 4, group 16 4, group 20 12]

/-- The identifiers that a number and the numbers after it stand for. -/
def numbered (number : Nat) : IdSupply :=
  ⟨fun turn => numberedId (number + turn)⟩

end IdSupply

end FleetConfig
