import FleetConfig.Number.IntegerText
import FleetConfig.Value.Basic

/-!
# Documents

A document is a value read from the bytes of a file in one of two notations.
Reading fails when the bytes are not a text, when the text does not follow the
notation, or when it spells an integer with too many digits; a reader may also
break down in a way of its own.
-/

namespace FleetConfig

/-- Why bytes could not be read as a document. -/
inductive DocumentError where
  | notText
  | malformed
  | unreadableInteger (reason : IntegerTextError)
  | breakdown (name : String)
  deriving Repr, DecidableEq

end FleetConfig
