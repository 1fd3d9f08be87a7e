import FleetConfig.Number.IntegerText
import FleetConfig.Value.Basic

/-!
# Fact paths

A fact path leads from the root of a fact tree to one value: a key descends into
a map, an index in square brackets picks an item of a list.  `Segment.parse`
reads a path, `Segment.render` writes one, and `Segment.resolve` follows it.
-/

namespace FleetConfig

/-- One step of a fact path. -/
inductive Segment where
  | key (name : String)
  | index (number : Int)
  deriving Repr, DecidableEq

/-- Why a text is not a fact path. -/
inductive FactPathError where
  | blank
  | emptySegment (path : String) (position : Nat)
  | indexWithoutKey (path : String)
  | unterminatedIndex (path : String)
  | malformedIndex (index path : String)
  | unreadableIndex (reason : IntegerTextError)
  | afterIndex (character : Char) (path : String)
  | unbalancedBracket (path : String)
  | trailingPeriod (path : String)
  deriving Repr, DecidableEq

namespace FactPathError

/-- The message for a text that is not a fact path. -/
def message : FactPathError → String
  | .blank =>
      "Fact path must be a non-empty string"
  | .emptySegment path position =>
      s!"Empty segment in fact path '{path}' at {position}"
  | .indexWithoutKey path =>
      s!"Index must follow a key in fact path '{path}'"
  | .unterminatedIndex path =>
      s!"Unterminated index in fact path '{path}'"
  | .malformedIndex index path =>
      s!"Index '{index}' in fact path '{path}' is not a non-negative integer"
  | .unreadableIndex reason =>
      reason.message
  | .afterIndex character path =>
      s!"Unexpected '{character}' after index in fact path '{path}'"
  | .unbalancedBracket path =>
      s!"Unbalanced ']' in fact path '{path}'"
  | .trailingPeriod path =>
      s!"Fact path '{path}' ends with '.'"

end FactPathError

namespace Segment

/-- What a reader of a path is in the middle of; the characters read so far come last first. -/
inductive Reading where
  | keyExpected
  | inKey (read : List Char)
  | inIndex (read : List Char)
  | indexDone
  deriving Repr, DecidableEq

/-- Read the text between the brackets of an index. -/
def readIndex
    (path : String)
    (characters : List Char) :
    Except FactPathError Segment :=
  let trimmed := Text.stripBlanks characters
  if trimmed.isEmpty || !trimmed.all Text.isFigure then
    .error (.malformedIndex (String.ofList trimmed) path)
  else
    match readInteger (String.ofList trimmed) with
    | .ok number =>
        .ok (.index number)
    | .error reason =>
        .error (.unreadableIndex reason)

/-- Read the rest of a path; the segments read so far come last first. -/
def readFrom
    (path : String)
    (position : Nat)
    (reading : Reading)
    (segments : List Segment) :
    List Char → Except FactPathError (List Segment)
  | [] =>
      match reading with
      | .keyExpected =>
          .error (.trailingPeriod path)
      | .inKey read =>
          .ok (.key (String.ofList read.reverse) :: segments).reverse
      | .inIndex _ =>
          .error (.unterminatedIndex path)
      | .indexDone =>
          .ok segments.reverse
  | character :: rest =>
      match reading with
      | .keyExpected =>
          if character = '.' then
            .error (.emptySegment path position)
          else if character = '[' then
            if segments.isEmpty then
              readFrom path (position + 1) (.inIndex []) segments rest
            else
              .error (.indexWithoutKey path)
          else if character = ']' then
            .error (.unbalancedBracket path)
          else
            readFrom path (position + 1) (.inKey [character]) segments rest
      | .inKey read =>
          let withKey := .key (String.ofList read.reverse) :: segments
          if character = '.' then
            readFrom path (position + 1) .keyExpected withKey rest
          else if character = '[' then
            readFrom path (position + 1) (.inIndex []) withKey rest
          else if character = ']' then
            .error (.unbalancedBracket path)
          else
            readFrom path (position + 1) (.inKey (character :: read)) segments rest
      | .inIndex read =>
          if character = ']' then
            match readIndex path read.reverse with
            | .ok segment =>
                readFrom path (position + 1) .indexDone (segment :: segments) rest
            | .error reason =>
                .error reason
          else
            readFrom path (position + 1) (.inIndex (character :: read)) segments rest
      | .indexDone =>
          if character = '.' then
            readFrom path (position + 1) .keyExpected segments rest
          else if character = '[' then
            readFrom path (position + 1) (.inIndex []) segments rest
          else
            .error (.afterIndex character path)

/-- Read a fact path. -/
def parse (path : String) : Except FactPathError (List Segment) :=
  if Text.isAllBlank path then
    .error .blank
  else
    readFrom path 0 .keyExpected [] path.toList

/-- Write segments as a path: a period before each key but the first segment, brackets around indexes. -/
def render : (isFirst : Bool) → List Segment → List Char
  | _, [] =>
      []
  | isFirst, .key name :: rest =>
      (if isFirst then [] else ['.']) ++ name.toList ++ render false rest
  | _, .index number :: rest =>
      '[' :: (toString number).toList ++ ']' :: render false rest

end Segment

/-- Where a path leads: to a value, to nothing, or before the first item of a list. -/
inductive Lookup where
  | found (value : Value)
  | absent
  | beforeFirst
  deriving Repr

namespace Lookup

/-- The value that was found. -/
def value? : Lookup → Option Value
  | .found value =>
      some value
  | _ =>
      none

end Lookup

namespace Segment

/-- Pick an item of a list; a negative index counts from the end. -/
def pick
    (items : List Value)
    (number : Int) :
    Lookup :=
  let position := if number < 0 then number + items.length else number
  if position < 0 then
    .beforeFirst
  else
    match items[position.toNat]? with
    | some value =>
        .found value
    | none =>
        .absent

/-- Take one step from a value. -/
def step (current : Value) : Segment → Lookup
  | .key name =>
      match current with
      | .map entries =>
          match Entries.find? entries (.text name) with
          | some value =>
              .found value
          | none =>
              .absent
      | _ =>
          .absent
  | .index number =>
      match current with
      | .list items =>
          pick items number
      | _ =>
          .absent

/-- Follow segments from a value. -/
def resolve (current : Value) : List Segment → Lookup
  | [] =>
      .found current
  | segment :: rest =>
      match step current segment with
      | .found value =>
          resolve value rest
      | other =>
          other

end Segment

/-- A text together with the segments it is read as. -/
structure FactPath where
  text : String
  segments : List Segment
  parsed : Segment.parse text = .ok segments

namespace FactPath

/-- Read a path, dropping the blanks around it. -/
def parse (text : String) : Except FactPathError FactPath :=
  let trimmed := Text.strip text
  match shape : Segment.parse trimmed with
  | .ok segments =>
      .ok ⟨trimmed, segments, shape⟩
  | .error reason =>
      .error reason

/-- The value that a path leads to in a fact tree. -/
def resolve?
    (path : FactPath)
    (facts : Value) :
    Option Value :=
  (Segment.resolve facts path.segments).value?

end FactPath

end FleetConfig
