import FleetConfig.Pattern.Escape

/-!
# Sets of characters in patterns

A set lists characters, ranges and categories between brackets; a closing bracket
at its start is a character of the set.
-/

namespace FleetConfig.Pattern

open Reader

/-- One end of a possible range in a set. -/
def readSetMember : Token → Reader SetItem
  | .escaped letter =>
      readSetEscape letter
  | .plain character =>
      return .single character.toNat

/-- Read the items of a set up to its closing bracket; the items read come last first. -/
def readSetItems (start : Nat) : (budget : Nat) → (items : List SetItem) → Reader (List SetItem)
  | 0, _ =>
      refuse .unterminatedSet
  | budget + 1, items => do
      match ← take with
      | none =>
          refuse .unterminatedSet ((← get).position - start)
      | some token =>
          if token = .plain ']' && !items.isEmpty then
            return items.reverse
          else
            let item ← readSetMember token
            if ← accept '-' then
              match ← take with
              | none =>
                  refuse .unterminatedSet ((← get).position - start)
              | some next =>
                  if next = .plain ']' then
                    return (.single 45 :: item :: items).reverse
                  else
                    let other ← readSetMember next
                    match item, other with
                    | .single first, .single last =>
                        if last < first then
                          refuse (.badRange token.text next.text) (token.length + 1 + next.length)
                        else
                          readSetItems start budget (.range first last :: items)
                    | _, _ =>
                        refuse (.badRange token.text next.text) (token.length + 1 + next.length)
            else
              readSetItems start budget (item :: items)

/-- Read a set of characters after its opening bracket. -/
def readSet : Reader Node := do
  let start := (← get).position - 1
  let negated ← accept '^'
  let items ← readSetItems start ((← get).rest.length + 1) []
  match negated, items with
  | false, [.single code] =>
      return .character code
  | _, _ =>
      return .set negated items

end FleetConfig.Pattern
