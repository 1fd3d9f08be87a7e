/-!
# Tokens of YAML

A YAML text is a row of tokens.  Besides what is written, tokens say where
blocks begin and end by indentation and which parts are keys and values.
-/

namespace FleetConfig.Yaml

/-- What a directive says. -/
inductive Directive where
  | version (major : Nat)
  | handle (name target : String)
  | other
  deriving Repr, DecidableEq

/-- A token. -/
inductive Token where
  | directive (directive : Directive)
  | documentStart
  | documentEnd
  | streamEnd
  | blockSequenceStart
  | blockMappingStart
  | blockEnd
  | flowSequenceStart
  | flowSequenceEnd
  | flowMappingStart
  | flowMappingEnd
  | blockEntry
  | flowEntry
  | key
  | value
  | alias (name : String)
  | anchor (name : String)
  | tag (handle? : Option String) (suffix : String)
  | scalar (text : String) (isPlain : Bool)
  deriving Repr, DecidableEq

end FleetConfig.Yaml
