import FleetConfig.Document.Yaml.Scanner
import FleetConfig.Text.Hex

/-!
# Quoted scalars

A scalar in single quotes, where a doubled quote is a quote, or in double quotes,
where a backslash begins an escape.  A line end between two lines becomes a space.
-/

namespace FleetConfig.Yaml.Scan

/-- The character that a letter after a backslash stands for. -/
def escaped? : Char → Option Char
  | '0' =>
      some (Char.ofNat 0x0)
  | 'a' =>
      some (Char.ofNat 0x7)
  | 'b' =>
      some (Char.ofNat 0x8)
  | 't' =>
      some '\t'
  | '\t' =>
      some '\t'
  | 'n' =>
      some '\n'
  | 'v' =>
      some (Char.ofNat 0xB)
  | 'f' =>
      some (Char.ofNat 0xC)
  | 'r' =>
      some (Char.ofNat 0xD)
  | 'e' =>
      some (Char.ofNat 0x1B)
  | ' ' =>
      some ' '
  | '"' =>
      some '"'
  | '\\' =>
      some '\\'
  | '/' =>
      some '/'
  | 'N' =>
      some (Char.ofNat 0x85)
  | '_' =>
      some (Char.ofNat 0xA0)
  | 'L' =>
      some (Char.ofNat 0x2028)
  | 'P' =>
      some (Char.ofNat 0x2029)
  | _ =>
      none

/-- How many hexadecimal digits follow a letter after a backslash. -/
def escapeWidth? : Char → Option Nat
  | 'x' =>
      some 2
  | 'u' =>
      some 4
  | 'U' =>
      some 8
  | _ =>
      none

/-- Scan empty lines inside a quoted scalar, where no document may begin or end. -/
def quotedBreaks : (budget : Nat) → (breaks : List Char) → Scan (List Char)
  | 0, breaks =>
      return breaks
  | budget + 1, breaks => do
      demand (!(← cursor).atDocumentMark)
      skipWhile isSpacing
      let found ← takeBreak
      if found.isEmpty then
        return breaks
      else
        quotedBreaks budget (breaks ++ found)

/-- Scan spaces and line ends inside a quoted scalar; a single line end is a space. -/
def quotedSpaces : Scan (List Char) := do
  let spaces ← takeWhile isSpacing
  demand (← peek?).isSome
  let lineEnd ← takeBreak
  if lineEnd.isEmpty then
    return spaces
  else
    let breaks ← quotedBreaks (← fullBudget) []
    if lineEnd != ['\n'] then
      return lineEnd ++ breaks
    else if breaks.isEmpty then
      return [' ']
    else
      return breaks

/-- Scan what follows a backslash. -/
def escape : Scan (List Char) := do
  match ← peek? with
  | none =>
      fail
  | some letter =>
      match escaped? letter, escapeWidth? letter with
      | some character, _ =>
          skip 1
          return [character]
      | none, some width =>
          skip 1
          let digits := (← cursor).rest.take width
          match Text.numberOfHex? digits with
          | some code =>
              demand (digits.length == width && code < 0x110000)
              skip width
              return [Char.ofNat code]
          | none =>
              fail
      | none, none =>
          demand (isBreak letter)
          let _ ← takeBreak
          quotedBreaks (← fullBudget) []

/-- Scan the rest of a quoted scalar with its closing quote. -/
def quotedRest (quote : Char) : (budget : Nat) → (text : List Char) → Scan (List Char)
  | 0, _ =>
      fail
  | budget + 1, text => do
      match ← peek? with
      | none =>
          fail
      | some character =>
          if character = quote then
            let doubled := quote == '\'' && (← peekAt? 1) == some quote
            if doubled then
              skip 2
              quotedRest quote budget (text ++ [quote])
            else
              skip 1
              return text
          else if character = '\\' && quote = '"' then
            skip 1
            quotedRest quote budget (text ++ (← escape))
          else if isSpacing character || isBreak character then
            quotedRest quote budget (text ++ (← quotedSpaces))
          else
            let word ← takeWhile fun other =>
              other != quote && !(other == '\\' && quote == '"') && !isSpacing other && !isBreak other
            quotedRest quote budget (text ++ word)

/-- Scan a quoted scalar. -/
def quotedScalar (quote : Char) : Scan Unit := do
  noteCandidate
  allowKey false
  skip 1
  let text ← quotedRest quote (← fullBudget) []
  emit (.scalar (String.ofList text) false)

end FleetConfig.Yaml.Scan
