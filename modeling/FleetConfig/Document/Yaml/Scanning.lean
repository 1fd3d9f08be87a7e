import FleetConfig.Document.Yaml.BlockScalar
import FleetConfig.Document.Yaml.Mark
import FleetConfig.Document.Yaml.PlainScalar
import FleetConfig.Document.Yaml.QuotedScalar

/-!
# Scanning YAML

Scanning turns a text into tokens.  Each token shows by its first character;
tokens that were noted with their place are put in at the end.
-/

namespace FleetConfig.Yaml

namespace Scan

/-- Scan the token that begins with a character. -/
def tokenFrom (character : Char) : Scan Unit := do
  let scanner ← get
  let here := scanner.cursor
  let inBrackets := scanner.depth != 0
  let next? := here.rest[1]?
  let isMark := inBrackets || endsToken next?
  if here.column = 0 && character = '%' then
    directive
  else if here.column = 0 && here.atDocumentMark then
    documentMark (if character = '-' then .documentStart else .documentEnd)
  else if character = '[' then
    openBracket .flowSequenceStart
  else if character = '\x7b' then
    openBracket .flowMappingStart
  else if character = ']' then
    closeBracket .flowSequenceEnd
  else if character = '\x7d' then
    closeBracket .flowMappingEnd
  else if character = ',' then
    flowEntry
  else if character = '-' && endsToken next? then
    blockEntry
  else if character = '?' && isMark then
    keyMark
  else if character = ':' && isMark then
    valueMark
  else if character = '*' then
    let name ← anchorName
    emit (.alias name)
  else if character = '&' then
    let name ← anchorName
    emit (.anchor name)
  else if character = '!' then
    tag
  else if character = '|' && !inBrackets then
    blockScalar false
  else if character = '>' && !inBrackets then
    blockScalar true
  else if character = '\'' || character = '"' then
    quotedScalar character
  else if beginsPlain inBrackets character next? then
    plainScalar
  else
    fail

/-- Scan tokens up to the end of the text. -/
def tokens : (budget : Nat) → Scan Unit
  | 0 =>
      fail
  | budget + 1 => do
      skipToToken (budget + 1)
      dropStaleCandidates
      unwind (← cursor).column
      match ← peek? with
      | some character =>
          tokenFrom character
          tokens budget
      | none =>
          unwind (-1)
          dropCandidate
          emit .streamEnd

end Scan

/-- Put tokens in at their places, which come in order; `position` is the place of the first token. -/
def putIn : (inserted : List (Nat × List Token)) → (position : Nat) → List Token → List Token
  | _, _, [] =>
      []
  | [], _, tokens =>
      tokens
  | (place, added) :: others, position, token :: rest =>
      if place = position then
        added ++ token :: putIn others (position + 1) rest
      else
        token :: putIn ((place, added) :: others) (position + 1) rest

/-- The tokens of a text; a byte order mark at its start does not count. -/
def scan (text : String) : Except DocumentError (List Token) :=
  let characters := text.toList
  let start : Cursor := ⟨characters, 0, 0, 0⟩
  let scanner : Scanner :=
    { length := characters.length,
      cursor := if characters.head? = some '\uFEFF' then start.next else start,
      tokens := [],
      tokenCount := 0,
      inserted := [],
      depth := 0,
      indent := -1,
      outerIndents := [],
      keyAllowed := true,
      candidates := [] }
  if characters.all isAllowed then
    match (Scan.tokens (scanner.length + 1)).run scanner with
    | .ok (_, final) =>
        .ok (putIn final.inserted 0 final.tokens.reverse)
    | .error error =>
        .error error
  else
    .error .malformed

end FleetConfig.Yaml
