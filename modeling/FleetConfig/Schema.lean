import FleetConfig.FactPath
import FleetConfig.Rule.Expected
import FleetConfig.Rule.Operator

/-!
# Checking documents

Rules, groups and nodes are read from documents: values that may hold anything.
Reading goes on after a complaint, so that a document gets all its complaints at
once, in the order of the fields.  Unknown fields are ignored.
-/

namespace FleetConfig

/-- One step down into a document. -/
inductive Step where
  | field (name : String)
  | item (position : Nat)
  | key (key : Scalar)
  deriving Repr, DecidableEq

/-- Why a value of the right type is refused. -/
inductive Refusal where
  | unknownOperator (name : String)
  | unknownMatchType (name : String)
  | path (error : FactPathError)
  | expected (error : ExpectedError)
  | needsList (operator : Operator)
  | needsPattern (operator : Operator)
  | needsScalar (operator : Operator)
  | duplicateClass (name : String)
  | duplicateRule (rule group : String)
  deriving Repr

namespace Refusal

/-- The message for a refused value. -/
def message : Refusal → String
  | .unknownOperator name =>
      Text.quoted name ++ " is not a valid RuleOperator"
  | .unknownMatchType name =>
      Text.quoted name ++ " is not a valid RuleMatchType"
  | .path error =>
      error.message
  | .expected error =>
      error.message
  | .needsList operator =>
      s!"Operator '{operator.name}' requires a list value"
  | .needsPattern operator =>
      s!"Operator '{operator.name}' requires a pattern string"
  | .needsScalar operator =>
      s!"Operator '{operator.name}' requires a scalar value"
  | .duplicateClass name =>
      s!"Duplicate class '{name}'"
  | .duplicateRule rule group =>
      s!"Duplicate rule id '{rule}' in group '{group}'"

end Refusal

/-- What is wrong at one place of a document. -/
inductive Defect where
  | missing
  | notRecord
  | notText
  | notList
  | notMap
  | notFlag
  | unreadableFlag
  | notChoice
  | refused (refusal : Refusal)
  deriving Repr

/-- A defect and where it is. -/
structure Complaint where
  place : List Step
  defect : Defect
  deriving Repr

/-- What was read from a document, or all the complaints about it. -/
inductive Checked (α : Type) where
  | valid (value : α)
  | invalid (complaints : List Complaint)
  deriving Repr

namespace Checked

/-- The complaints about what was read. -/
def complaints : Checked α → List Complaint
  | .valid _ =>
      []
  | .invalid complaints =>
      complaints

/-- Apply a function to what was read. -/
def map
    (function : α → β) :
    Checked α → Checked β
  | .valid value =>
      .valid (function value)
  | .invalid complaints =>
      .invalid complaints

/-- Read two things; complaints about the first come first. -/
def apply : Checked (α → β) → Checked α → Checked β
  | .valid function, argument =>
      argument.map function
  | .invalid complaints, argument =>
      .invalid (complaints ++ argument.complaints)

instance : Applicative Checked where
  pure := .valid
  seq function argument := apply function (argument ())

/-- Read on with what was read. -/
def andThen
    (checked : Checked α)
    (next : α → Checked β) :
    Checked β :=
  match checked with
  | .valid value =>
      next value
  | .invalid complaints =>
      .invalid complaints

/-- A single defect at the place that is being read. -/
def defective (defect : Defect) : Checked α :=
  .invalid [⟨[], defect⟩]

/-- Turn a refusal into a complaint. -/
def ofExcept
    (refuse : ε → Refusal) :
    Except ε α → Checked α
  | .ok value =>
      .valid value
  | .error error =>
      .defective (.refused (refuse error))

/-- Move complaints one step down. -/
def under
    (step : Step) :
    Checked α → Checked α
  | .valid value =>
      .valid value
  | .invalid complaints =>
      .invalid (complaints.map fun complaint =>
        { complaint with place := step :: complaint.place })

/-- Collect what was read. -/
def sequence : List (Checked α) → Checked (List α)
  | [] =>
      .valid []
  | first :: rest =>
      (first.map List.cons).apply (sequence rest)

end Checked

namespace Schema

/-- Read a text. -/
def text : Value → Checked String
  | .text value =>
      .valid value
  | _ =>
      .defective .notText

/-- Read an identifier: a text, or an integer, which becomes its decimal text. -/
def identifier : Value → Checked String
  | .integer number =>
      .valid (toString number)
  | value =>
      text value

/-- Read something that may be `null`. -/
def optional
    (read : Value → Checked α) :
    Value → Checked (Option α)
  | .null =>
      .valid none
  | value =>
      (read value).map some

/-- Read a truth value written as a text. -/
def flagOfText (value : String) : Checked Bool :=
  let word := String.ofList (value.toList.map Char.toLower)
  if ["1", "on", "t", "true", "y", "yes"].contains word then
    .valid true
  else if ["0", "off", "f", "false", "n", "no"].contains word then
    .valid false
  else
    .defective .unreadableFlag

/-- Read a truth value written as an integer; only integers of 64 bits are looked at. -/
def flagOfInteger (number : Int) : Checked Bool :=
  let limit : Int := Nat.pow 2 63
  if number = 0 then
    .valid false
  else if number = 1 then
    .valid true
  else if -limit ≤ number ∧ number < limit then
    .defective .unreadableFlag
  else
    .defective .notFlag

/-- Read a truth value, which numbers and words may stand for. -/
def flag : Value → Checked Bool
  | .boolean value =>
      .valid value
  | .integer number =>
      flagOfInteger number
  | .double number =>
      match number.integer? with
      | some integer =>
          flagOfInteger integer
      | none =>
          .defective .notFlag
  | .text word =>
      flagOfText word
  | _ =>
      .defective .notFlag

/-- Read items that stand from a position on. -/
def itemsFrom
    (read : Value → Checked α)
    (position : Nat) :
    List Value → List (Checked α)
  | [] =>
      []
  | item :: rest =>
      (read item).under (.item position) :: itemsFrom read (position + 1) rest

/-- The items of a list. -/
def items : Value → Checked (List Value)
  | .list values =>
      .valid values
  | _ =>
      .defective .notList

/-- Read a list, item by item. -/
def list
    (read : Value → Checked α)
    (document : Value) :
    Checked (List α) :=
  (items document).andThen fun values => .sequence (itemsFrom read 0 values)

/-- Read the key of a map of fields. -/
def fieldKey : Scalar × Value → Checked (String × Value)
  | (.text name, value) =>
      .valid (name, value)
  | (key, _) =>
      (Checked.defective .notText).under (.key key)

/-- Read a map whose keys are texts. -/
def fields : Value → Checked Fields
  | .map entries =>
      .sequence (entries.map fieldKey)
  | _ =>
      .defective .notMap

/-- The entries of a record. -/
def record : Value → Checked Entries
  | .map entries =>
      .valid entries
  | _ =>
      .defective .notRecord

/-- Read a field that must be there. -/
def required
    (entries : Entries)
    (name : String)
    (read : Value → Checked α) :
    Checked α :=
  match entries.find? (.text name) with
  | some value =>
      (read value).under (.field name)
  | none =>
      (Checked.defective .missing).under (.field name)

/-- Read a field that has a default. -/
def withDefault
    (entries : Entries)
    (name : String)
    (default : α)
    (read : Value → Checked α) :
    Checked α :=
  match entries.find? (.text name) with
  | some value =>
      (read value).under (.field name)
  | none =>
      .valid default

end Schema

end FleetConfig
