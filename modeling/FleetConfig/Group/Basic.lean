import FleetConfig.Rule.Basic
import FleetConfig.Text.Sorted

/-!
# Groups

A group puts classes, parameters and global variables on the nodes that belong
to it: the nodes pinned to it and those that its rules match.  Groups form a hierarchy
by naming their parents.
-/

namespace FleetConfig

/-- How the rules of a group combine. -/
inductive RuleMatchType where
  | all
  | any
  deriving Repr, DecidableEq

namespace RuleMatchType

/-- The name of a way to combine rules. -/
def name : RuleMatchType → String
  | .all =>
      "all"
  | .any =>
      "any"

/-- Read a way to combine rules, in any letter case between blanks. -/
def read (text : String) : Except String RuleMatchType :=
  let name := Text.lower (Text.strip text)
  if name = "all" then
    .ok .all
  else if name = "any" then
    .ok .any
  else
    .error name

end RuleMatchType

/-- A group of nodes and what it puts on them. -/
structure Group where
  id : String
  name : String
  description : String
  parent? : Option String
  environment? : Option String
  assignsEnvironment : Bool
  matchesAllNodes : Bool
  matchType : RuleMatchType
  rules : List Rule
  pinnedNodes : List String
  classes : List String
  parameters : Fields
  globals : Fields

namespace Group

/-- A group of which nothing is known but its identifier. -/
def empty (id : String) : Group :=
  ⟨id, id, "", none, none, false, false, .all, [], [], [], [], []⟩

/-- How many identifiers the rules of a group are given. -/
def idsTaken : Value → Nat
  | .map entries =>
      match Entries.find? entries (.text "rules") with
      | some (.list rules) =>
          rules.foldr (Rule.idsTaken · + ·) 0
      | _ =>
          0
  | _ =>
      0

/-- Read an environment; a blank one is none. -/
def readEnvironment (document : Value) : Checked (Option String) :=
  (Schema.optional Schema.text document).map fun environment? =>
    environment?.filter fun environment => !Text.isAllBlank environment

/-- Read how the rules of a group combine. -/
def readMatchType : Value → Checked RuleMatchType
  | .text name =>
      .ofExcept .unknownMatchType (RuleMatchType.read name)
  | _ =>
      .defective .notChoice

/-- Read pinned nodes; their order and repetitions do not matter. -/
def readPinnedNodes (document : Value) : Checked (List String) :=
  (Schema.list Schema.text document).map Text.distinctAscending

/-- Read classes, which must all be different. -/
def readClasses (document : Value) : Checked (List String) :=
  (Schema.list Schema.text document).andThen fun classes =>
    match Text.firstRepeated? [] classes with
    | some name =>
        .defective (.refused (.duplicateClass name))
    | none =>
        .valid classes

/-- Check that the rules of a group have different identifiers, and give it a name. -/
def complete (group : Group) : Checked Group :=
  match Text.firstRepeated? [] (group.rules.map (·.id)) with
  | some rule =>
      .defective (.refused (.duplicateRule rule group.id))
  | none =>
      .valid { group with name := if group.name.isEmpty then group.id else group.name }

/-- Read a group, handing out identifiers to its rules. -/
def read
    (supply : IdSupply)
    (document : Value) :
    Checked Group :=
  (Schema.record document).andThen fun entries =>
    let optionally := fun {α : Type} (name : String) (default : α) (read : Value → Checked α) =>
      Schema.withDefault entries name default read
    (Group.mk
      <$> Schema.required entries "id" Schema.identifier
      <*> optionally "name" "" Schema.text
      <*> optionally "description" "" Schema.text
      <*> optionally "parent_id" none (Schema.optional Schema.identifier)
      <*> optionally "environment" none readEnvironment
      <*> optionally "is_environment_group" false Schema.flag
      <*> optionally "match_all_nodes" false Schema.flag
      <*> optionally "rule_match_type" .all readMatchType
      <*> optionally "rules" [] (Rule.readList supply)
      <*> optionally "pinned_nodes" [] readPinnedNodes
      <*> optionally "classes" [] readClasses
      <*> optionally "parameters" [] Schema.fields
      <*> optionally "variables" [] Schema.fields).andThen complete

/-- Read groups that stand from a position on, handing out identifiers to their rules. -/
def readFrom
    (supply : IdSupply)
    (position : Nat) :
    List Value → List (Checked Group)
  | [] =>
      []
  | document :: rest =>
      (read supply document).under (.item position) ::
        readFrom (supply.after (idsTaken document)) (position + 1) rest

/-- Read a list of groups, handing out identifiers to their rules. -/
def readList
    (supply : IdSupply)
    (document : Value) :
    Checked (List Group) :=
  (Schema.items document).andThen fun documents => .sequence (readFrom supply 0 documents)

/-- Whether a node is pinned to a group. -/
def isPinned
    (group : Group)
    (certname : String) :
    Bool :=
  group.pinnedNodes.contains certname

/-- A group as a record of plain values. -/
def toPlain (group : Group) : Value :=
  .ofFields
    [("id", .text group.id),
      ("name", .text group.name),
      ("description", .text group.description),
      ("parent_id", .optionalText group.parent?),
      ("environment", .optionalText group.environment?),
      ("is_environment_group", .boolean group.assignsEnvironment),
      ("match_all_nodes", .boolean group.matchesAllNodes),
      ("rule_match_type", .text group.matchType.name),
      ("rules", .list (group.rules.map Rule.toPlain)),
      ("pinned_nodes", .texts group.pinnedNodes),
      ("classes", .texts group.classes),
      ("parameters", .ofFields (Value.plainFields group.parameters)),
      ("variables", .ofFields (Value.plainFields group.globals))]

end Group

end FleetConfig
