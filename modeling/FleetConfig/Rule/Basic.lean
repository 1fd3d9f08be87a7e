import FleetConfig.Rule.Supply
import FleetConfig.Schema
import FleetConfig.Value.Plain

/-!
# Rules

A rule puts a condition on the value that a fact path leads to.  Every family of
operators has its own kind of condition, which holds just what the family needs:
a scalar, a bound, a pattern, a list, or nothing.
-/

namespace FleetConfig

/-- What a rule asks of a fact; a negated condition asks for the opposite. -/
inductive Condition where
  | equality (negated : Bool) (expected : Scalar)
  | pattern (negated : Bool) (source : String)
  | ordering (order : Order) (bound : Scalar)
  | membership (negated : Bool) (items : List Scalar)
  | presence (negated : Bool)
  deriving Repr, DecidableEq

namespace Condition

/-- The operator of a condition. -/
def operator : Condition → Operator
  | .equality negated _ =>
      .equality negated
  | .pattern negated _ =>
      .pattern negated
  | .ordering order _ =>
      .ordering order
  | .membership negated _ =>
      .membership negated
  | .presence negated =>
      .presence negated

/-- The value that a condition expects. -/
def expected : Condition → Expected
  | .equality _ value =>
      .scalar value
  | .pattern _ source =>
      .scalar (.text source)
  | .ordering _ bound =>
      .scalar bound
  | .membership _ items =>
      .list items
  | .presence _ =>
      .nothing

/-- Put an operator and an expected value together, if the operator can use the value. -/
def ofParts : Operator → Expected → Except Refusal Condition
  | .presence negated, _ =>
      .ok (.presence negated)
  | .membership negated, .list items =>
      .ok (.membership negated items)
  | .membership negated, _ =>
      .error (.needsList (.membership negated))
  | .pattern negated, .scalar (.text source) =>
      .ok (.pattern negated source)
  | .pattern negated, _ =>
      .error (.needsPattern (.pattern negated))
  | .ordering order, .scalar bound =>
      .ok (.ordering order bound)
  | .ordering order, _ =>
      .error (.needsScalar (.ordering order))
  | .equality negated, .scalar value =>
      .ok (.equality negated value)
  | .equality negated, _ =>
      .error (.needsScalar (.equality negated))

end Condition

/-- A condition on the value that a fact path leads to. -/
structure Rule where
  id : String
  path : FactPath
  condition : Condition

namespace Rule

/-- How many identifiers a rule is given: one if it is a record without an identifier. -/
def idsTaken : Value → Nat
  | .map entries =>
      match Entries.find? entries (.text "id") with
      | some _ =>
          0
      | none =>
          1
  | _ =>
      0

/-- Read a fact path. -/
def readPath (document : Value) : Checked FactPath :=
  (Schema.text document).andThen fun text => .ofExcept .path (FactPath.parse text)

/-- Read an operator. -/
def readOperator : Value → Checked Operator
  | .text name =>
      .ofExcept .unknownOperator (Operator.read name)
  | _ =>
      .defective .notChoice

/-- Read an expected value. -/
def readExpected (document : Value) : Checked Expected :=
  .ofExcept .expected (Expected.ofValue document)

/-- A rule of an operator and an expected value that fit together. -/
def ofParts
    (id : String)
    (path : FactPath)
    (operator : Operator)
    (expected : Expected) :
    Checked Rule :=
  (Checked.ofExcept (fun refusal => refusal) (Condition.ofParts operator expected)).map
    fun condition => ⟨id, path, condition⟩

/-- Read a rule; without an identifier it is given the next one. -/
def read
    (supply : IdSupply)
    (document : Value) :
    Checked Rule :=
  (Schema.record document).andThen fun entries =>
    let id := Schema.withDefault entries "id" (supply.id 0) Schema.identifier
    let path := Schema.required entries "fact_path" readPath
    let operator := Schema.required entries "operator" readOperator
    let expected := Schema.withDefault entries "value" .nothing readExpected
    (ofParts <$> id <*> path <*> operator <*> expected).andThen fun rule => rule

/-- Read rules that stand from a position on, handing out identifiers. -/
def readFrom
    (supply : IdSupply)
    (position : Nat) :
    List Value → List (Checked Rule)
  | [] =>
      []
  | document :: rest =>
      (read supply document).under (.item position) ::
        readFrom (supply.after (idsTaken document)) (position + 1) rest

/-- Read a list of rules, handing out identifiers. -/
def readList
    (supply : IdSupply)
    (document : Value) :
    Checked (List Rule) :=
  (Schema.items document).andThen fun documents => .sequence (readFrom supply 0 documents)

/-- A rule as a record of plain values. -/
def toPlain (rule : Rule) : Value :=
  .ofFields
    [("id", .text rule.id),
      ("fact_path", .text rule.path.text),
      ("operator", .text rule.condition.operator.name),
      ("value", rule.condition.expected.toValue.plain)]

end Rule

end FleetConfig
