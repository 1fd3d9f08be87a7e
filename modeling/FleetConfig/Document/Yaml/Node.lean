import FleetConfig.Document.Basic
import FleetConfig.Document.Yaml.Token

/-!
# Nodes of YAML

The tokens of a document form a tree of nodes.  An alias is the node that its
anchor names; it must come after the whole of that node.  There may be only one
document, and none at all is nothing.
-/

namespace FleetConfig.Yaml

/-- A node, with the tag it is given; a plain scalar without one means what it looks like. -/
inductive Node where
  | scalar (tag? : Option String) (text : String) (isPlain : Bool)
  | sequence (tag? : Option String) (items : List Node)
  | mapping (tag? : Option String) (entries : List (Node × Node))
  deriving Repr, Nonempty

/-- The state of the parser; an anchor whose node is not complete has none yet. -/
structure Parser where
  tokens : List Token
  handles : List (String × String)
  anchors : List (String × Option Node)

/-- A step of the parser. -/
abbrev Parse :=
  StateT Parser (Except DocumentError)

/-- The node that stands where nothing is written. -/
def Node.nothing : Node :=
  .scalar none "" true

/-- The handles that need no directive. -/
def standardHandles : List (String × String) :=
  [("!", "!"), ("!!", "tag:yaml.org,2002:")]

namespace Parse

/-- Give up. -/
def fail : Parse α :=
  throw .malformed

/-- Give up unless something holds. -/
def demand (holds : Bool) : Parse Unit :=
  if holds then pure () else fail

/-- The next token. -/
def peek : Parse Token :=
  return (← get).tokens.head?.getD .streamEnd

/-- Pass over the next token. -/
def skip : Parse Unit :=
  modify fun parser => { parser with tokens := parser.tokens.tail }

/-- Pass over the next token if it is a given one. -/
def accept (token : Token) : Parse Bool := do
  if (← peek) = token then
    skip
    return true
  else
    return false

/-- Take the name of an anchor, if one comes. -/
def anchor? : Parse (Option String) := do
  match ← peek with
  | .anchor name =>
      skip
      return some name
  | _ =>
      return none

/-- Take a tag, if one comes, and spell it out. -/
def tag? : Parse (Option String) := do
  match ← peek with
  | .tag none suffix =>
      skip
      return some suffix
  | .tag (some handle) suffix =>
      skip
      match (← get).handles.lookup handle with
      | some target =>
          return some (target ++ suffix)
      | none =>
          fail
  | _ =>
      return none

/-- Take an anchor and a tag in either order, if they come. -/
def properties : Parse (Option String × Option String) := do
  match ← anchor? with
  | some name =>
      return (some name, ← tag?)
  | none =>
      match ← tag? with
      | some tag =>
          return (← anchor?, some tag)
      | none =>
          return (none, none)

/-- Note that the node of an anchor has begun; no two nodes have the same anchor. -/
def beginAnchor : Option String → Parse Unit
  | none =>
      pure ()
  | some name => do
      demand ((← get).anchors.lookup name).isNone
      modify fun parser => { parser with anchors := (name, none) :: parser.anchors }

/-- Note the complete node of an anchor. -/
def endAnchor
    (anchor? : Option String)
    (node : Node) :
    Parse Node := do
  match anchor? with
  | some name =>
      modify fun parser => { parser with anchors := (name, some node) :: parser.anchors }
  | none =>
      pure ()
  return node

/-- The node that an alias stands for. -/
def aliased (name : String) : Parse Node := do
  match (← get).anchors.lookup name with
  | some (some node) =>
      return node
  | _ =>
      fail

/-- Whether a token ends an entry of a block mapping. -/
def endsBlockEntry (token : Token) : Bool :=
  token == .key || token == .value || token == .blockEnd

/-- Whether a token ends an entry of a collection in brackets. -/
def endsFlowEntry
    (closing : Token)
    (token : Token) :
    Bool :=
  token == .flowEntry || token == closing

mutual

/-- Parse a node; outside brackets it may be a block, after a key also a sequence that is not indented. -/
def node : (budget : Nat) → (inBlock mayBeFlush : Bool) → Parse Node
  | 0, _, _ =>
      fail
  | budget + 1, inBlock, mayBeFlush => do
      match ← peek with
      | .alias name =>
          skip
          aliased name
      | _ =>
          let (anchor?, tag?) ← properties
          beginAnchor anchor?
          let found ← content budget inBlock mayBeFlush tag? (anchor?.isSome || tag?.isSome)
          endAnchor anchor? found

/-- Parse what follows the properties of a node. -/
def content :
    (budget : Nat) → (inBlock mayBeFlush : Bool) → (tag? : Option String) →
      (mayBeEmpty : Bool) → Parse Node
  | 0, _, _, _, _ =>
      fail
  | budget + 1, inBlock, mayBeFlush, tag?, mayBeEmpty => do
      match ← peek with
      | .blockEntry =>
          if mayBeFlush then
            return .sequence tag? (← flushEntries budget)
          else
            demand mayBeEmpty
            return .scalar tag? "" true
      | .scalar text isPlain =>
          skip
          return .scalar tag? text isPlain
      | .flowSequenceStart =>
          skip
          return .sequence tag? (← flowItems budget true)
      | .flowMappingStart =>
          skip
          return .mapping tag? (← flowEntries budget true)
      | other =>
          if inBlock && other = .blockSequenceStart then
            skip
            return .sequence tag? (← blockItems budget)
          else if inBlock && other = .blockMappingStart then
            skip
            return .mapping tag? (← blockEntries budget)
          else
            demand mayBeEmpty
            return .scalar tag? "" true

/-- Parse the items of a block sequence. -/
def blockItems : (budget : Nat) → Parse (List Node)
  | 0 =>
      fail
  | budget + 1 => do
      if ← accept .blockEntry then
        let next ← peek
        let item ←
          if next = .blockEntry || next = .blockEnd then
            pure Node.nothing
          else
            node budget true false
        return item :: (← blockItems budget)
      else
        demand (← accept .blockEnd)
        return []

/-- Parse the items of a sequence that is not indented. -/
def flushEntries : (budget : Nat) → Parse (List Node)
  | 0 =>
      fail
  | budget + 1 => do
      if ← accept .blockEntry then
        let next ← peek
        let item ←
          if next = .blockEntry || endsBlockEntry next then
            pure Node.nothing
          else
            node budget true false
        return item :: (← flushEntries budget)
      else
        return []

/-- Parse a key or a value of a block mapping after its mark. -/
def blockPart : (budget : Nat) → Parse Node
  | 0 =>
      fail
  | budget + 1 => do
      if endsBlockEntry (← peek) then
        return Node.nothing
      else
        node budget true true

/-- Parse the entries of a block mapping. -/
def blockEntries : (budget : Nat) → Parse (List (Node × Node))
  | 0 =>
      fail
  | budget + 1 => do
      if ← accept .key then
        let key ← blockPart budget
        let hasValue ← accept .value
        let value ← if hasValue then blockPart budget else pure Node.nothing
        return (key, value) :: (← blockEntries budget)
      else
        demand (← accept .blockEnd)
        return []

/-- Parse a key or a value in brackets after its mark. -/
def flowPart : (budget : Nat) → (closing : Token) → (mayBeValue : Bool) → Parse Node
  | 0, _, _ =>
      fail
  | budget + 1, closing, mayBeValue => do
      let next ← peek
      if endsFlowEntry closing next || (mayBeValue && next == .value) then
        return Node.nothing
      else
        node budget false false

/-- Parse an entry in brackets after the mark of its key. -/
def flowPair : (budget : Nat) → (closing : Token) → Parse (Node × Node)
  | 0, _ =>
      fail
  | budget + 1, closing => do
      let key ← flowPart budget closing true
      let hasValue ← accept .value
      let value ← if hasValue then flowPart budget closing false else pure Node.nothing
      return (key, value)

/-- Parse the items of a sequence in brackets. -/
def flowItems : (budget : Nat) → (isFirst : Bool) → Parse (List Node)
  | 0, _ =>
      fail
  | budget + 1, isFirst => do
      if ← accept .flowSequenceEnd then
        return []
      else
        if !isFirst then
          demand (← accept .flowEntry)
        flowItem budget

/-- Parse an item of a sequence in brackets and those after it, or the closing bracket. -/
def flowItem : (budget : Nat) → Parse (List Node)
  | 0 =>
      fail
  | budget + 1 => do
      match ← peek with
      | .flowSequenceEnd =>
          skip
          return []
      | .key =>
          skip
          let (key, value) ← flowPair budget .flowSequenceEnd
          return .mapping none [(key, value)] :: (← flowItems budget false)
      | _ =>
          let item ← node budget false false
          return item :: (← flowItems budget false)

/-- Parse the entries of a mapping in brackets. -/
def flowEntries : (budget : Nat) → (isFirst : Bool) → Parse (List (Node × Node))
  | 0, _ =>
      fail
  | budget + 1, isFirst => do
      if ← accept .flowMappingEnd then
        return []
      else
        if !isFirst then
          demand (← accept .flowEntry)
        flowMember budget

/-- Parse an entry of a mapping in brackets and those after it, or the closing bracket. -/
def flowMember : (budget : Nat) → Parse (List (Node × Node))
  | 0 =>
      fail
  | budget + 1 => do
      match ← peek with
      | .flowMappingEnd =>
          skip
          return []
      | .key =>
          skip
          let pair ← flowPair budget .flowMappingEnd
          return pair :: (← flowEntries budget false)
      | _ =>
          let key ← node budget false false
          return (key, Node.nothing) :: (← flowEntries budget false)

end

/-- Take the directives before a document; gives whether the version was named. -/
def directives : (budget : Nat) → (hasVersion : Bool) → Parse Unit
  | 0, _ =>
      fail
  | budget + 1, hasVersion => do
      match ← peek with
      | .directive (.version major) =>
          skip
          demand (!hasVersion && major == 1)
          directives budget true
      | .directive (.handle name target) =>
          skip
          demand ((← get).handles.lookup name).isNone
          modify fun parser => { parser with handles := parser.handles ++ [(name, target)] }
          directives budget hasVersion
      | .directive .other =>
          skip
          directives budget hasVersion
      | _ =>
          modify fun parser => { parser with handles := parser.handles ++ standardHandles }

/-- Pass over the marks at the end of a document. -/
def documentEnds : (budget : Nat) → Parse Unit
  | 0 =>
      pure ()
  | budget + 1 => do
      if ← accept .documentEnd then
        documentEnds budget

/-- Parse a document that begins with a mark. -/
def markedDocument (budget : Nat) : Parse Node := do
  directives budget false
  demand (← accept .documentStart)
  match ← peek with
  | .directive _ =>
      return Node.nothing
  | .documentStart =>
      return Node.nothing
  | .documentEnd =>
      return Node.nothing
  | .streamEnd =>
      return Node.nothing
  | _ =>
      node budget true false

/-- Parse the only document, if there is one. -/
def stream (budget : Nat) : Parse (Option Node) := do
  let found? ←
    match ← peek with
    | .streamEnd =>
        pure none
    | .directive _ =>
        some <$> markedDocument budget
    | .documentStart =>
        some <$> markedDocument budget
    | _ => do
        modify fun parser => { parser with handles := standardHandles }
        some <$> node budget true false
  documentEnds budget
  demand ((← peek) == .streamEnd)
  return found?

end Parse

/-- The only document that tokens form, if there is one. -/
def parse (tokens : List Token) : Except DocumentError (Option Node) :=
  ((Parse.stream (4 * tokens.length + 8)).run ⟨tokens, [], []⟩).map Prod.fst

end FleetConfig.Yaml
