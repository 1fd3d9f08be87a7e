import FleetConfig.Schema
import FleetConfig.Value.Plain

/-!
# Nodes

A node is known by its certname.  It reports facts and perhaps an environment.
-/

namespace FleetConfig

/-- A node with the facts it reports. -/
structure Node where
  certname : String
  facts : Fields
  environment? : Option String
  deriving Repr

namespace Node

/-- Read a node. -/
def read (document : Value) : Checked Node :=
  (Schema.record document).andThen fun entries =>
    Node.mk
      <$> Schema.required entries "certname" Schema.text
      <*> Schema.withDefault entries "facts" [] Schema.fields
      <*> Schema.withDefault entries "environment" none (Schema.optional Schema.text)

/-- Read nodes one after the other, up to the first that has complaints. -/
def readAll : List Value → Checked (List Node)
  | [] =>
      .valid []
  | document :: rest =>
      (read document).andThen fun node => (readAll rest).map (node :: ·)

/-- A node as a record of plain values. -/
def toPlain (node : Node) : Value :=
  .ofFields
    [("certname", .text node.certname),
      ("facts", .ofFields (Value.plainFields node.facts)),
      ("environment", .optionalText node.environment?)]

/-- The facts with the certname as a fact of its own, unless the node reports it. -/
def factsWithCertname (node : Node) : Fields :=
  match Fields.find? node.facts "clientcert" with
  | some _ =>
      node.facts
  | none =>
      node.facts ++ [("clientcert", .text node.certname)]

end Node

end FleetConfig
