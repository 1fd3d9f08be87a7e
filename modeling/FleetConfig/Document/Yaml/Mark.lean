import FleetConfig.Document.Yaml.Scanner
import FleetConfig.Text.Hex

/-!
# Marks in YAML

Directives, the marks around documents, brackets and commas, the marks of blocks,
anchors and tags.
-/

namespace FleetConfig.Yaml.Scan

/-- Scan the number of a version. -/
def versionNumber : Scan Nat := do
  let digits ← takeWhile Char.isDigit
  demand (!digits.isEmpty)
  return digits.foldl (fun total digit => 10 * total + (digit.toNat - 48)) 0

/-- Scan the handle of a tag. -/
def tagHandle : Scan String := do
  demand ((← peek?) == some '!')
  skip 1
  let name ← takeWhile isNameCharacter
  if (← peek?) = some '!' then
    skip 1
    return String.ofList ('!' :: name ++ ['!'])
  else
    demand (name.isEmpty && (← peek?) == some ' ')
    return "!"

/-- The bytes that escapes in a tag stand for, as characters. -/
def unescapeTag : List Char → Option (List Char)
  | '%' :: first :: second :: rest =>
      match Text.numberOfHex? [first, second], unescapeTag rest with
      | some code, some others =>
          if code < 0x80 then some (Char.ofNat code :: others) else none
      | _, _ =>
          none
  | '%' :: _ =>
      none
  | character :: rest =>
      (unescapeTag rest).map (character :: ·)
  | [] =>
      some []

/-- Scan the rest of a tag. -/
def tagSuffix : Scan String := do
  let written ← takeWhile isTagCharacter
  demand (!written.isEmpty)
  match unescapeTag written with
  | some characters =>
      return String.ofList characters
  | none =>
      fail

/-- Scan a directive. -/
def directive : Scan Unit := do
  unwind (-1)
  dropCandidate
  allowKey false
  skip 1
  let name ← takeWhile isNameCharacter
  demand (!name.isEmpty && endsWord (← peek?))
  if name = ['Y', 'A', 'M', 'L'] then
    skipWhile (· == ' ')
    let major ← versionNumber
    demand ((← peek?) == some '.')
    skip 1
    let _ ← versionNumber
    demand (endsWord (← peek?))
    emit (.directive (.version major))
  else if name = ['T', 'A', 'G'] then
    skipWhile (· == ' ')
    let handle ← tagHandle
    demand ((← peek?) == some ' ')
    skipWhile (· == ' ')
    let target ← tagSuffix
    demand (endsWord (← peek?))
    emit (.directive (.handle handle target))
  else
    skipWhile fun character => !isBreak character
    emit (.directive .other)
  skipEmptyRest

/-- Scan the mark at the start or the end of a document. -/
def documentMark (token : Token) : Scan Unit := do
  unwind (-1)
  dropCandidate
  allowKey false
  skip 3
  emit token

/-- Scan an opening bracket. -/
def openBracket (token : Token) : Scan Unit := do
  noteCandidate
  modify fun scanner => { scanner with depth := scanner.depth + 1 }
  allowKey true
  skip 1
  emit token

/-- Scan a closing bracket. -/
def closeBracket (token : Token) : Scan Unit := do
  dropCandidate
  demand ((← get).depth != 0)
  modify fun scanner => { scanner with depth := scanner.depth - 1 }
  allowKey false
  skip 1
  emit token

/-- Scan the comma between the entries of a collection in brackets. -/
def flowEntry : Scan Unit := do
  allowKey true
  dropCandidate
  skip 1
  emit .flowEntry

/-- Scan a mark that may open a block: outside brackets it has to stand where a key may begin. -/
def blockMark (opening : Token) : Scan Unit := do
  let scanner ← get
  if scanner.depth = 0 then
    demand scanner.keyAllowed
    if ← openBlock scanner.cursor.column then
      emit opening

/-- Scan the hyphen of an entry. -/
def blockEntry : Scan Unit := do
  blockMark .blockSequenceStart
  allowKey true
  dropCandidate
  skip 1
  emit .blockEntry

/-- Scan the question mark of a key. -/
def keyMark : Scan Unit := do
  blockMark .blockMappingStart
  allowKey ((← get).depth == 0)
  dropCandidate
  skip 1
  emit .key

/-- Scan the colon of a value; the key may have begun at a candidate. -/
def valueMark : Scan Unit := do
  let scanner ← get
  match scanner.candidates.find? fun candidate => candidate.depth == scanner.depth with
  | some candidate =>
      set
        { scanner with
          candidates := scanner.candidates.filter fun other => other.depth != scanner.depth }
      let opened ←
        if scanner.depth = 0 then
          openBlock candidate.column
        else
          pure false
      let tokens := if opened then [.blockMappingStart, .key] else [.key]
      modify fun scanner =>
        { scanner with inserted := noteTokens candidate.token tokens scanner.inserted }
      allowKey false
  | none =>
      blockMark .blockMappingStart
      allowKey (scanner.depth == 0)
      dropCandidate
  skip 1
  emit .value

/-- Scan the name of an anchor or an alias. -/
def anchorName : Scan String := do
  noteCandidate
  allowKey false
  skip 1
  let name ← takeWhile isNameCharacter
  let next? ← peek?
  demand (!name.isEmpty && (endsToken next? || next?.any fun next =>
    "?:,]\x7d%@`".toList.contains next))
  return String.ofList name

/-- Scan a tag. -/
def tag : Scan Unit := do
  noteCandidate
  allowKey false
  let next? ← peekAt? 1
  if next? = some '<' then
    skip 2
    let suffix ← tagSuffix
    demand ((← peek?) == some '>')
    skip 1
    emit (.tag none suffix)
  else if endsToken next? then
    skip 1
    emit (.tag none "!")
  else
    let word := ((← cursor).rest.drop 1).takeWhile fun character => !endsWord (some character)
    if word.contains '!' then
      let handle ← tagHandle
      let suffix ← tagSuffix
      emit (.tag (some handle) suffix)
    else
      skip 1
      let suffix ← tagSuffix
      emit (.tag (some "!") suffix)
  demand (endsWord (← peek?))

end FleetConfig.Yaml.Scan
