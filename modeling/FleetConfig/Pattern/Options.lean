import FleetConfig.Pattern.Reader
import FleetConfig.Text.Word

/-!
# Options in patterns

Letters at the start of a group turn options on and, after a minus, off.
-/

namespace FleetConfig.Pattern

open Reader

/-- The option that a letter names. -/
def option? : Char → Option OptionSet
  | 'i' =>
      some { ignoreCase := true }
  | 'm' =>
      some { multiline := true }
  | 's' =>
      some { dotMatchesAll := true }
  | 'x' =>
      some { verbose := true }
  | 'a' =>
      some { ascii := true }
  | 'u' =>
      some { unicode := true }
  | 't' =>
      some { withoutRepeats := true }
  | _ =>
      none

/-- Whether a letter names an option, even one that is never allowed. -/
def namesOption (letter : Char) : Bool :=
  letter == 'L' || (option? letter).isSome

/-- Why a token where an option is expected is refused. -/
def refuseOption
    (token : Token)
    (expected : String) :
    Reader α :=
  match token with
  | .plain character =>
      refuse (if Text.isLetter character then .unknownOption else .missing expected) 1
  | .escaped _ =>
      refuse (.missing expected) 2

/-- Read the letters of the options to turn on; the first letter has been taken. -/
def readOptionsOn :
    (budget : Nat) → (letter : Char) → (on : OptionSet) → Reader (OptionSet × Char)
  | 0, _, _ =>
      refuse (.missing "-, : or )")
  | budget + 1, letter, on => do
      match option? letter with
      | none =>
          refuse .localeOption
      | some option =>
          let united := on.union option
          if (option.ascii || option.unicode) && united.ascii && united.unicode then
            refuse .incompatibleOptions
          else
            match ← take with
            | none =>
                refuse (.missing "-, : or )")
            | some (.plain next) =>
                if next = ')' || next = '-' || next = ':' then
                  return (united, next)
                else if namesOption next then
                  readOptionsOn budget next united
                else
                  refuseOption (.plain next) "-, : or )"
            | some token =>
                refuseOption token "-, : or )"

/-- Read the letters of the options to turn off; the first letter has been taken. -/
def readOptionsOff : (budget : Nat) → (letter : Char) → (off : OptionSet) → Reader OptionSet
  | 0, _, _ =>
      refuse (.missing ":")
  | budget + 1, letter, off => do
      match option? letter with
      | none =>
          refuse .characterSetTurnedOff
      | some option =>
          if option.ascii || option.unicode then
            refuse .characterSetTurnedOff
          else
            let united := off.union option
            match ← take with
            | none =>
                refuse (.missing ":")
            | some (.plain next) =>
                if next = ':' then
                  return united
                else if namesOption next then
                  readOptionsOff budget next united
                else
                  refuseOption (.plain next) ":"
            | some token =>
                refuseOption token ":"

/-- Read the options of a group after their first letter or the minus; `none` stands for the whole pattern. -/
def readOptions (first : Char) : Reader (Option OptionChange) := do
  let budget := (← get).rest.length + 1
  let (on, mark) ← if first = '-' then pure ({}, '-') else readOptionsOn budget first {}
  if mark = ')' then
    modify fun progress => { progress with options := progress.options.union on }
    return none
  else if on.withoutRepeats then
    refuse .globalOptionTurnedOn 1
  else
    let off ←
      if mark = '-' then
        match ← take with
        | none =>
            refuse (.missing "flag")
        | some (.plain letter) =>
            if namesOption letter then
              readOptionsOff budget letter {}
            else
              refuseOption (.plain letter) "flag"
        | some token =>
            refuseOption token "flag"
      else
        pure {}
    if off.withoutRepeats then
      refuse .globalOptionTurnedOff 1
    else if on.overlaps off then
      refuse .optionTurnedOnAndOff 1
    else
      return some ⟨on, off⟩

end FleetConfig.Pattern
