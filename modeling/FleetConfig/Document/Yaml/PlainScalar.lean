import FleetConfig.Document.Yaml.Scanner

/-!
# Plain scalars

A plain scalar goes on to a mark, a comment or a line that is indented too little.
A line end between two lines becomes a space.
-/

namespace FleetConfig.Yaml.Scan

/-- Whether a plain scalar cannot go on with these characters. -/
def stopsPlain
    (inBrackets : Bool)
    (character : Char)
    (next? : Option Char) :
    Bool :=
  let isBracketMark := fun (other : Char) => inBrackets && ",[]\x7b\x7d".toList.contains other
  endsToken (some character) ||
    (character == ':' && (endsToken next? || next?.any isBracketMark)) ||
    isBracketMark character ||
    (inBrackets && character == '?')

/-- The part of a plain scalar up to the next space. -/
def plainPart (inBrackets : Bool) : List Char → List Char
  | [] =>
      []
  | character :: rest =>
      if stopsPlain inBrackets character rest.head? then
        []
      else
        character :: plainPart inBrackets rest

/-- Scan empty lines inside a plain scalar; gives nothing when a document begins or ends. -/
def plainBreaks : (budget : Nat) → (breaks : List Char) → Scan (Option (List Char))
  | 0, breaks =>
      return some breaks
  | budget + 1, breaks => do
      if (← cursor).atDocumentMark then
        return none
      else
        skipWhile (· == ' ')
        let found ← takeBreak
        if found.isEmpty then
          return some breaks
        else
          plainBreaks budget (breaks ++ found)

/-- Scan spaces and line ends inside a plain scalar; nothing ends the scalar. -/
def plainSpaces : Scan (List Char) := do
  let spaces ← takeWhile (· == ' ')
  let lineEnd ← takeBreak
  if lineEnd.isEmpty then
    return spaces
  else
    allowKey true
    match ← plainBreaks (← fullBudget) [] with
    | none =>
        return []
    | some breaks =>
        if lineEnd != ['\n'] then
          return lineEnd ++ breaks
        else if breaks.isEmpty then
          return [' ']
        else
          return breaks

/-- Scan the parts of a plain scalar, which continues on lines indented at least up to a column. -/
def plainRest (column : Int) : (budget : Nat) → (text spaces : List Char) → Scan (List Char)
  | 0, text, _ =>
      return text
  | budget + 1, text, spaces => do
      let scanner ← get
      let rest := scanner.cursor.rest
      let part := if rest.head? = some '#' then [] else plainPart (scanner.depth != 0) rest
      if part.isEmpty then
        return text
      else
        allowKey false
        skip part.length
        let more ← plainSpaces
        let here ← cursor
        let goesOn := !more.isEmpty && here.rest.head? != some '#' &&
          (scanner.depth != 0 || column ≤ here.column)
        if goesOn then
          plainRest column budget (text ++ spaces ++ part) more
        else
          return text ++ spaces ++ part

/-- Scan a plain scalar. -/
def plainScalar : Scan Unit := do
  noteCandidate
  allowKey false
  let scanner ← get
  let text ← plainRest (scanner.indent + 1) (← fullBudget) [] []
  emit (.scalar (String.ofList text) true)

/-- Whether a plain scalar may begin with a character that is followed by another. -/
def beginsPlain
    (inBrackets : Bool)
    (character : Char)
    (next? : Option Char) :
    Bool :=
  if "-?:,[]\x7b\x7d#&*!|>'\"%@`".toList.contains character then
    !endsToken next? && (character == '-' || (!inBrackets && (character == '?' || character == ':')))
  else
    !endsToken (some character)

end FleetConfig.Yaml.Scan
