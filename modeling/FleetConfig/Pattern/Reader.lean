import FleetConfig.Pattern.Width

/-!
# Readers of patterns

A pattern is read token by token: a token is a character, or a backslash with
the character after it.  The reader keeps the characters that are left, the groups
met so far and the options set at the start.  A backslash at the very end is
refused as soon as the reader moves up to it.
-/

namespace FleetConfig.Pattern

/-- A character, or a backslash with the character after it. -/
inductive Token where
  | plain (character : Char)
  | escaped (character : Char)
  deriving Repr, DecidableEq

namespace Token

/-- The characters of a token. -/
def characters : Token → List Char
  | .plain character =>
      [character]
  | .escaped character =>
      ['\\', character]

/-- The text of a token. -/
def text (token : Token) : String :=
  String.ofList token.characters

/-- The number of characters of a token. -/
def length (token : Token) : Nat :=
  token.characters.length

end Token

/-- How far the reading of a pattern has come. -/
structure Progress where
  rest : List Char
  position : Nat
  options : OptionSet
  names : List (String × Nat)
  widths : List (Option Width)
  lookBehindGroups? : Option Nat
  conditions : List (Nat × Nat)
  deriving Repr

/-- The progress before anything is read. -/
def Progress.start (pattern : String) : Progress :=
  ⟨pattern.toList, 0, {}, [], [none], none, []⟩

/-- A step of reading: it goes on from the progress so far or finds a fault. -/
abbrev Reader :=
  StateT Progress (Except Fault)

namespace Reader

/-- Refuse the pattern at a distance before the position. -/
def refuse
    (reason : Reason)
    (distance : Nat := 0) :
    Reader α := do
  let progress ← get
  throw (.invalid ⟨reason, some (progress.position - distance)⟩)

/-- Stop at a fatal fault. -/
def stop (fatal : Fatal) : Reader α :=
  throw (.fatal fatal)

/-- The next token. -/
def peek : Reader (Option Token) := do
  match (← get).rest with
  | [] =>
      return none
  | ['\\'] =>
      return none
  | '\\' :: character :: _ =>
      return some (.escaped character)
  | character :: _ =>
      return some (.plain character)

/-- Refuse a backslash that nothing follows. -/
def refuseLoneBackslash : Reader Unit := do
  if (← get).rest = ['\\'] then
    refuse .escapeAtEnd

/-- Take the next token. -/
def take : Reader (Option Token) := do
  let token? ← peek
  match token? with
  | none =>
      return none
  | some token =>
      modify fun progress =>
        { progress with
          rest := progress.rest.drop token.length
          position := progress.position + token.length }
      refuseLoneBackslash
      return some token

/-- Take the next token if it is a given character. -/
def accept (character : Char) : Reader Bool := do
  if (← peek) = some (.plain character) then
    let _ ← take
    return true
  else
    return false

/-- Take at most a number of characters that pass a test. -/
def takeUpTo (holds : Char → Bool) : (count : Nat) → Reader (List Char)
  | 0 =>
      return []
  | count + 1 => do
      match ← peek with
      | some (.plain character) =>
          if holds character then
            let _ ← take
            return character :: (← takeUpTo holds count)
          else
            return []
      | _ =>
          return []

/-- Take the characters that pass a test. -/
def takeWhile (holds : Char → Bool) : Reader (List Char) := do
  takeUpTo holds (← get).rest.length

/-- Take the tokens up to a terminator and return their text; the tokens taken come last first. -/
def takeNameFrom
    (terminator : Char)
    (what : String) :
    (budget : Nat) → (taken : List Char) → Reader String
  | 0, _ =>
      refuse (.missing what)
  | budget + 1, taken => do
      match ← take with
      | none =>
          if taken.isEmpty then
            refuse (.missing what)
          else
            refuse (.unterminatedName terminator) taken.length
      | some token =>
          if token = .plain terminator then
            if taken.isEmpty then
              refuse (.missing what) 1
            else
              return String.ofList taken.reverse
          else
            takeNameFrom terminator what budget (token.characters.reverse ++ taken)

/-- Take a name up to its terminator. -/
def takeName
    (terminator : Char)
    (what : String) :
    Reader String := do
  takeNameFrom terminator what ((← get).rest.length + 1) []

end Reader

end FleetConfig.Pattern
