import FleetConfig.Document.Basic
import FleetConfig.Document.Yaml.Cursor
import FleetConfig.Document.Yaml.Token

/-!
# The YAML scanner

The scanner keeps the column of every open block, the depth of brackets, and for
each depth the place where a key may have begun: that it was a key shows only at
the colon, on the same line and at most 1024 characters later.  Tokens that belong
before others which are already there are noted with their place, in order.
-/

namespace FleetConfig.Yaml

/-- A place where a key may have begun. -/
structure Candidate where
  depth : Nat
  token : Nat
  isRequired : Bool
  index : Nat
  line : Nat
  column : Nat
  deriving Repr, DecidableEq

/-- The state of the scanner; the tokens come last first, and a column of -1 stands for no block. -/
structure Scanner where
  length : Nat
  cursor : Cursor
  tokens : List Token
  tokenCount : Nat
  inserted : List (Nat × List Token)
  depth : Nat
  indent : Int
  outerIndents : List Int
  keyAllowed : Bool
  candidates : List Candidate

/-- A step of the scanner. -/
abbrev Scan :=
  StateT Scanner (Except DocumentError)

namespace Scan

/-- Give up. -/
def fail : Scan α :=
  throw .malformed

/-- Give up unless something holds. -/
def demand (holds : Bool) : Scan Unit :=
  if holds then pure () else fail

/-- The place reached. -/
def cursor : Scan Cursor :=
  return (← get).cursor

/-- A number of steps that covers any part of the text. -/
def fullBudget : Scan Nat :=
  return (← get).length + 1

/-- The next character. -/
def peek? : Scan (Option Char) :=
  return (← cursor).rest.head?

/-- The character some places ahead. -/
def peekAt? (distance : Nat) : Scan (Option Char) :=
  return (← cursor).rest[distance]?

/-- Pass over some characters. -/
def skip (count : Nat) : Scan Unit :=
  modify fun scanner => { scanner with cursor := scanner.cursor.advance count }

/-- Take the characters that pass a test. -/
def takeWhile (holds : Char → Bool) : Scan (List Char) := do
  let taken := (← cursor).rest.takeWhile holds
  skip taken.length
  return taken

/-- Pass over the characters that pass a test. -/
def skipWhile (holds : Char → Bool) : Scan Unit := do
  let _ ← takeWhile holds

/-- Take the end of a line, if there is one; most line ends count as the same character. -/
def takeBreak : Scan (List Char) := do
  match ← peek? with
  | some character =>
      if isBreak character then
        skip 1
        return [if character == '\x85' then '\n' else character]
      else
        return []
  | none =>
      return []

/-- Pass over a comment. -/
def skipComment : Scan Unit := do
  if (← peek?) = some '#' then
    skipWhile fun character => !isBreak character

/-- Pass over the rest of a line, which may hold only a comment. -/
def skipEmptyRest : Scan Unit := do
  skipWhile (· == ' ')
  skipComment
  demand (endsLine (← peek?))
  let _ ← takeBreak

/-- Note tokens with their place among those that were noted, which stand in order of their places. -/
def noteTokens
    (place : Nat)
    (tokens : List Token) :
    List (Nat × List Token) → List (Nat × List Token)
  | [] =>
      [(place, tokens)]
  | first :: rest =>
      if place ≤ first.1 then
        (place, tokens) :: first :: rest
      else
        first :: noteTokens place tokens rest

/-- Add a token. -/
def emit (token : Token) : Scan Unit :=
  modify fun scanner =>
    { scanner with tokens := token :: scanner.tokens, tokenCount := scanner.tokenCount + 1 }

/-- Allow or forbid that a key begins here. -/
def allowKey (allowed : Bool) : Scan Unit :=
  modify fun scanner => { scanner with keyAllowed := allowed }

/-- Forget the candidates for keys that are too far away; a required one may not be. -/
def dropStaleCandidates : Scan Unit := do
  let scanner ← get
  let isStale := fun (candidate : Candidate) =>
    candidate.line != scanner.cursor.line || candidate.index + 1024 < scanner.cursor.index
  demand (!scanner.candidates.any fun candidate => isStale candidate && candidate.isRequired)
  set { scanner with candidates := scanner.candidates.filter fun candidate => !isStale candidate }

/-- Forget the candidate for a key at this depth of brackets; a required one may not be. -/
def dropCandidate : Scan Unit := do
  let scanner ← get
  demand (!scanner.candidates.any fun candidate =>
    candidate.depth == scanner.depth && candidate.isRequired)
  set
    { scanner with
      candidates := scanner.candidates.filter fun candidate => candidate.depth != scanner.depth }

/-- Note that a key may begin here. -/
def noteCandidate : Scan Unit := do
  if (← get).keyAllowed then
    dropCandidate
    modify fun scanner =>
      { scanner with
        candidates :=
          { depth := scanner.depth,
            token := scanner.tokenCount,
            isRequired := scanner.depth == 0 && scanner.indent == scanner.cursor.column,
            index := scanner.cursor.index,
            line := scanner.cursor.line,
            column := scanner.cursor.column } :: scanner.candidates }

/-- Close the blocks that are indented more than a column, given the indents around them. -/
def closeBlocks (column : Int) : List Int → Scan Unit
  | [] =>
      pure ()
  | outer :: outers => do
      if column < (← get).indent then
        emit .blockEnd
        modify fun scanner => { scanner with indent := outer, outerIndents := outers }
        closeBlocks column outers

/-- Close the blocks that are indented more than a column, unless inside brackets. -/
def unwind (column : Int) : Scan Unit := do
  let scanner ← get
  if scanner.depth = 0 then
    closeBlocks column scanner.outerIndents

/-- Open a block at a column if it is indented more than the one around it. -/
def openBlock (column : Nat) : Scan Bool := do
  let scanner ← get
  if scanner.indent < column then
    set
      { scanner with
        indent := column,
        outerIndents := scanner.indent :: scanner.outerIndents }
    return true
  else
    return false

/-- Pass over spaces, comments and line ends; a key may begin on a new line. -/
def skipToToken : (budget : Nat) → Scan Unit
  | 0 =>
      pure ()
  | budget + 1 => do
      skipWhile (· == ' ')
      skipComment
      if !(← takeBreak).isEmpty then
        if (← get).depth = 0 then
          allowKey true
        skipToToken budget

end Scan

end FleetConfig.Yaml
