import FleetConfig.Document.Yaml.Node
import FleetConfig.Document.Yaml.Resolution
import FleetConfig.Document.Yaml.Scanning

/-!
# Documents in YAML

The nodes of a document stand for values.  A merge key brings in the entries of
other mappings, which come before the mapping's own.  When a key is repeated,
its last value stands.
-/

namespace FleetConfig.Yaml

/-- The beginning of the tags for what plain scalars can mean. -/
def standardTag (name : String) : String :=
  "tag:yaml.org,2002:" ++ name

/-- What a tag says about a scalar. -/
def meaningOfTag? (tag : String) : Option Meaning :=
  [(standardTag "str", Meaning.text),
    (standardTag "null", .null),
    (standardTag "bool", .boolean),
    (standardTag "int", .integer),
    (standardTag "float", .double),
    (standardTag "merge", .mergeKey),
    (standardTag "value", .valueKey)].lookup tag

/-- What a scalar means: what its tag says, or what it looks like if it is plain. -/
def scalarMeaning?
    (tag? : Option String)
    (text : String)
    (isPlain : Bool) :
    Option Meaning :=
  match tag? with
  | some "!" =>
      some (meaningOf text)
  | some tag =>
      meaningOfTag? tag
  | none =>
      some (if isPlain then meaningOf text else .text)

/-- The value of a scalar. -/
def scalarValue
    (meaning : Meaning)
    (text : String) :
    Except DocumentError Scalar :=
  match meaning with
  | .text =>
      .ok (.text text)
  | .null =>
      .ok .null
  | .boolean =>
      match booleanOf? text with
      | some value =>
          .ok (.boolean value)
      | none =>
          .error .malformed
  | .integer =>
      if looksInteger (splitSign text.toList).2 then
        match integerOf text with
        | .ok number =>
            .ok (.integer number)
        | .error reason =>
            .error (.unreadableInteger reason)
      else
        .error .malformed
  | .double =>
      match doubleOf? text with
      | some number =>
          .ok (.double number)
      | none =>
          .error .malformed
  | .mergeKey =>
      .error .malformed
  | .valueKey =>
      .error .malformed

namespace Node

/-- Whether a node is a merge key. -/
def isMergeKey : Node → Bool
  | .scalar tag? text isPlain =>
      scalarMeaning? tag? text isPlain == some .mergeKey
  | _ =>
      false

/-- A node as a key: the sign `=` by itself is a text there. -/
def asKey : Node → Node
  | .scalar tag? text isPlain =>
      if scalarMeaning? tag? text isPlain == some .valueKey then
        .scalar (some (standardTag "str")) text isPlain
      else
        .scalar tag? text isPlain
  | node =>
      node

/-- Whether a tag allows a collection to be what it is. -/
def allows
    (name : String)
    (tag? : Option String) :
    Bool :=
  tag?.all fun tag => tag == "!" || tag == standardTag name

mutual

/-- The entries of a mapping with those that merge keys bring in, which come first. -/
def flattened : (budget : Nat) → List (Node × Node) → Except DocumentError (List (Node × Node))
  | 0, _ =>
      .error .malformed
  | budget + 1, entries => do
      let merged ← (entries.filter fun (key, _) => key.isMergeKey).mapM fun (_, value) =>
        mergedFrom budget value
      let own := entries.filter fun (key, _) => !key.isMergeKey
      return merged.flatten ++ own.map fun (key, value) => (key.asKey, value)

/-- The entries that the value of a merge key brings in: of a mapping or of several, the first last. -/
def mergedFrom : (budget : Nat) → Node → Except DocumentError (List (Node × Node))
  | 0, _ =>
      .error .malformed
  | budget + 1, .mapping _ entries =>
      flattened budget entries
  | budget + 1, .sequence _ items => do
      let parts ← items.mapM fun item =>
        match item with
        | .mapping _ entries =>
            flattened budget entries
        | _ =>
            .error .malformed
      return parts.reverse.flatten
  | _ + 1, .scalar .. =>
      .error .malformed

end

/-- The scalar that a node stands for as a key. -/
def keyValue : Node → Except DocumentError Scalar
  | .scalar tag? text isPlain =>
      match scalarMeaning? tag? text isPlain with
      | some meaning =>
          scalarValue meaning text
      | none =>
          .error .malformed
  | _ =>
      .error .malformed

/-- The value that a node stands for. -/
def toValue : (budget : Nat) → Node → Except DocumentError Value
  | 0, _ =>
      .error .malformed
  | _ + 1, .scalar tag? text isPlain =>
      match scalarMeaning? tag? text isPlain with
      | some meaning =>
          (scalarValue meaning text).map .scalar
      | none =>
          .error .malformed
  | budget + 1, .sequence tag? items =>
      if allows "seq" tag? then
        (items.mapM (toValue budget)).map .list
      else
        .error .malformed
  | budget + 1, .mapping tag? entries => do
      if allows "map" tag? then
        let written ← (← flattened budget entries).mapM fun (key, value) => do
          let keyFound ← keyValue key
          let valueFound ← toValue budget value
          pure (keyFound, valueFound)
        return .map (Entries.ofList written)
      else
        .error .malformed

end Node

/-- Read a text that holds at most one document; no document is `null`. -/
def read (text : String) : Except DocumentError Value := do
  let tokens ← scan text
  match ← parse tokens with
  | none =>
      return .null
  | some node =>
      node.toValue (2 * tokens.length + 8)

end FleetConfig.Yaml
