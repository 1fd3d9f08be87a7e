import FleetConfig.Document.Yaml.Scanner

/-!
# Block scalars

A block scalar has a header and lines that are indented alike.  In a folded one a
line end between two lines becomes a space; the header says what happens to the
line ends after the last line.
-/

namespace FleetConfig.Yaml.Scan

/-- What happens to the line ends after the last line of a block scalar. -/
inductive Chomping where
  | clip
  | strip
  | keep
  deriving Repr, DecidableEq

/-- Scan how to treat the line ends of a block scalar, if it is said. -/
def chomping? : Scan (Option Chomping) := do
  match ← peek? with
  | some '+' =>
      skip 1
      return some .keep
  | some '-' =>
      skip 1
      return some .strip
  | _ =>
      return none

/-- Scan the indentation of a block scalar, if it is given. -/
def indentation? : Scan (Option Nat) := do
  match ← peek? with
  | some character =>
      if character.isDigit then
        demand (character != '0')
        skip 1
        return some (character.toNat - 48)
      else
        return none
  | none =>
      return none

/-- Scan the header of a block scalar. -/
def blockHeader : Scan (Chomping × Option Nat) := do
  let before? ← chomping?
  let indentation? ← indentation?
  let after? ← if before?.isNone && indentation?.isSome then chomping? else pure none
  demand (endsWord (← peek?))
  skipEmptyRest
  return ((before?.or after?).getD .clip, indentation?)

/-- Scan the empty lines before a block scalar, measuring how far they are indented. -/
def leadingLines :
    (budget : Nat) → (breaks : List Char) → (widest : Nat) → Scan (List Char × Nat)
  | 0, breaks, widest =>
      return (breaks, widest)
  | budget + 1, breaks, widest => do
      skipWhile (· == ' ')
      let widestHere := max widest (← cursor).column
      let found ← takeBreak
      if found.isEmpty then
        return (breaks, widestHere)
      else
        leadingLines budget (breaks ++ found) widestHere

/-- Pass over at most as many spaces as lead up to a column. -/
def skipIndentation (column : Nat) : Scan Unit := do
  let here ← cursor
  let spaces := (here.rest.takeWhile (· == ' ')).length
  skip (min spaces (column - here.column))

/-- Scan empty lines that are indented at most up to a column. -/
def emptyLines (column : Nat) : (budget : Nat) → (breaks : List Char) → Scan (List Char)
  | 0, breaks =>
      return breaks
  | budget + 1, breaks => do
      skipIndentation column
      let found ← takeBreak
      if found.isEmpty then
        return breaks
      else
        emptyLines column budget (breaks ++ found)

/-- Scan the lines of a block scalar; gives the text so far, the last line end and the empty lines after it. -/
def blockLines
    (isFolded : Bool)
    (column : Nat) :
    (budget : Nat) → (text lineEnd breaks : List Char) → Scan (List Char × List Char × List Char)
  | 0, text, lineEnd, breaks =>
      return (text, lineEnd, breaks)
  | budget + 1, text, _, breaks => do
      let beginsSpaced := (← peek?).any isSpacing
      let line ← takeWhile fun character => !isBreak character
      let lineEnd ← takeBreak
      let breaksAfter ← emptyLines column (← fullBudget) []
      let soFar := text ++ breaks ++ line
      let here ← cursor
      match here.rest.head? with
      | some next =>
          if here.column = column then
            let folds := isFolded && lineEnd == ['\n'] && !beginsSpaced && !isSpacing next
            let joined :=
              if !folds then
                lineEnd
              else if breaksAfter.isEmpty then
                [' ']
              else
                []
            blockLines isFolded column budget (soFar ++ joined) lineEnd breaksAfter
          else
            return (soFar, lineEnd, breaksAfter)
      | none =>
          return (soFar, lineEnd, breaksAfter)

/-- Scan a block scalar. -/
def blockScalar (isFolded : Bool) : Scan Unit := do
  allowKey true
  dropCandidate
  skip 1
  let (chomping, indentation?) ← blockHeader
  let least := (max 1 ((← get).indent + 1)).toNat
  let budget ← fullBudget
  let (breaks, column) ←
    match indentation? with
    | none => do
        let (breaks, widest) ← leadingLines budget [] 0
        pure (breaks, max least widest)
    | some indentation => do
        let column := least + indentation - 1
        let breaks ← emptyLines column budget []
        pure (breaks, column)
  let here ← cursor
  let (text, lineEnd, trailing) ←
    if here.column = column && !here.rest.isEmpty then
      blockLines isFolded column budget [] [] breaks
    else
      pure ([], [], breaks)
  let ending :=
    match chomping with
    | .clip =>
        lineEnd
    | .strip =>
        []
    | .keep =>
        lineEnd ++ trailing
  emit (.scalar (String.ofList (text ++ ending)) false)

end FleetConfig.Yaml.Scan
