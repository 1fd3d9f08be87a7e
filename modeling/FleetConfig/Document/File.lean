import FleetConfig.Document.Json
import FleetConfig.Document.Yaml.Basic
import FleetConfig.Text.Case

/-!
# Files

A file holds one document in UTF-8.  The ending of its name decides the
notation: JSON for `.json` in any letter case, YAML for anything else.  The
three ways to end a line count as one.  No file has a path with a null character.
-/

namespace FleetConfig

/-- Why the content of a file cannot be had. -/
inductive AccessError where
  | notFound
  | isDirectory
  | notPermitted
  deriving Repr, DecidableEq

/-- Why a file could not be read as a document. -/
inductive FileError where
  | nullInPath
  | inaccessible (reason : AccessError)
  | unreadable (reason : DocumentError)
  deriving Repr, DecidableEq

/-- What a file system gives for a path. -/
abbrev Content :=
  Except AccessError ByteArray

/-- How bytes are read as documents in the two notations. -/
structure Readers where
  json : ByteArray → Except DocumentError Value
  yaml : ByteArray → Except DocumentError Value

namespace File

/-- The part of a path after the last slash. -/
def nameIn (path : String) : String :=
  String.ofList (path.toList.reverse.takeWhile (· != '/')).reverse

/-- The ending of a name with its period; a period at either end of the name begins none. -/
def ending (name : String) : String :=
  let characters := name.toList.reverse
  let after := characters.takeWhile (· != '.')
  match characters.dropWhile (· != '.') with
  | period :: _ :: _ =>
      if after.isEmpty then "" else String.ofList (period :: after.reverse)
  | _ =>
      ""

/-- Whether a path asks for JSON. -/
def isJson (path : String) : Bool :=
  Text.lower (ending (nameIn path)) == ".json"

/-- The parts of a path between its slashes. -/
def parts : List Char → List (List Char)
  | [] =>
      [[]]
  | character :: rest =>
      if character = '/' then
        [] :: parts rest
      else
        match parts rest with
        | [] =>
            [[character]]
        | part :: others =>
            (character :: part) :: others

/-- A path without empty parts and parts that stay in place; nothing at all is the place itself. -/
def tidy (path : String) : String :=
  let characters := path.toList
  let kept := (parts characters).filter fun part => part != [] && part != ['.']
  let slashes := (characters.takeWhile (· == '/')).length
  let root := if slashes == 2 then ['/', '/'] else if slashes == 0 then [] else ['/']
  let tidied := root ++ ['/'].intercalate kept
  if tidied.isEmpty then "." else String.ofList tidied

/-- Write every way to end a line as a line feed. -/
def unifyLineEnds : List Char → List Char
  | [] =>
      []
  | '\r' :: '\n' :: rest =>
      '\n' :: unifyLineEnds rest
  | '\r' :: rest =>
      '\n' :: unifyLineEnds rest
  | character :: rest =>
      character :: unifyLineEnds rest

/-- The text that bytes hold. -/
def textOf? (bytes : ByteArray) : Option String :=
  (String.fromUTF8? bytes).map fun text => String.ofList (unifyLineEnds text.toList)

/-- Read the text that bytes hold. -/
def decoded
    (read : String → Except DocumentError Value)
    (bytes : ByteArray) :
    Except DocumentError Value :=
  match textOf? bytes with
  | none =>
      .error .notText
  | some text =>
      read text

end File

namespace Readers

/-- The readers of texts in the two notations. -/
def standard : Readers :=
  ⟨File.decoded Json.read, File.decoded Yaml.read⟩

/-- The reader for the notation that a path asks for. -/
def forPath
    (readers : Readers)
    (path : String) :
    ByteArray → Except DocumentError Value :=
  if File.isJson path then readers.json else readers.yaml

end Readers

namespace File

/-- Read the document in a file. -/
def read
    (readers : Readers)
    (path : String)
    (content : Content) :
    Except FileError Value :=
  if path.toList.contains (Char.ofNat 0) then
    .error .nullInPath
  else
    match content with
    | .error reason =>
        .error (.inaccessible reason)
    | .ok bytes =>
        (readers.forPath (tidy path) bytes).mapError .unreadable

end File

end FleetConfig
