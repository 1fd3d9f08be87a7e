import FleetConfig.Document.File
import FleetConfig.Failure.Report
import FleetConfig.Group.Set
import FleetConfig.Node

/-!
# Inventory files

Group sets, facts and nodes are kept in files, each in more than one layout.  A
group set is a list of groups or a record with a version; facts are a map, which
may be wrapped together with the name of the node; nodes are a list or a record
with a list.  An empty file holds nothing of any of these.
-/

namespace FleetConfig

/-- What a file is meant to hold. -/
inductive Holding where
  | document
  | groupSet
  | facts
  | nodes
  deriving Repr, DecidableEq

/-- Why a file does not give what it is meant to hold. -/
inductive LoadReason where
  | file (reason : FileError)
  | wrongLayout
  | invalid (count : Nat)
  deriving Repr, DecidableEq

/-- The failure to load a file. -/
structure LoadError where
  path : String
  holding : Holding
  reason : LoadReason
  deriving Repr, DecidableEq

namespace AccessError

/-- The number of an access error. -/
def number : AccessError → Nat
  | .notFound =>
      2
  | .notPermitted =>
      13
  | .isDirectory =>
      21

/-- An access error in words. -/
def words : AccessError → String
  | .notFound =>
      "No such file or directory"
  | .notPermitted =>
      "Permission denied"
  | .isDirectory =>
      "Is a directory"

/-- The name of an access error. -/
def name : AccessError → String
  | .notFound =>
      "FileNotFoundError"
  | .notPermitted =>
      "PermissionError"
  | .isDirectory =>
      "IsADirectoryError"

/-- The message for an access error on a path. -/
def message
    (error : AccessError)
    (path : String) :
    String :=
  s!"[Errno {error.number}] {error.words}: {Text.quoted path}"

end AccessError

namespace Holding

/-- What a file is meant to hold, at the beginning of a message. -/
def subject : Holding → String
  | .document =>
      "Document"
  | .groupSet =>
      "Group definitions"
  | .facts =>
      "Facts"
  | .nodes =>
      "Node inventory"

/-- What a file is meant to hold, within a message. -/
def inSentence : Holding → String
  | .document =>
      "document"
  | .groupSet =>
      "group definitions"
  | .facts =>
      "facts"
  | .nodes =>
      "node inventory"

/-- The layouts that a file may have. -/
def layouts : Holding → String
  | .document =>
      "a document"
  | .groupSet =>
      "a list or a mapping"
  | .facts =>
      "a mapping"
  | .nodes =>
      "a list"

end Holding

namespace FileError

/-- The error for a file that could not be read: a report with the path and the cause.  Paths that no
file has, bytes that are not a text, integers that are too long and other breakdowns of a reader are
errors of their own. -/
def anyError
    (path : String) :
    FileError → AnyError
  | .inaccessible reason =>
      failed (reason.message path) reason.name
  | .unreadable .malformed =>
      failed "<parse error>" "ParseError"
  | .nullInPath =>
      .plain "ValueError" [.text "embedded null byte"]
  | .unreadable .notText =>
      .plain "UnicodeDecodeError" []
  | .unreadable (.unreadableInteger reason) =>
      .plain "ValueError" [.text reason.message]
  | .unreadable (.breakdown name) =>
      .plain name []
where
  failed (cause name : String) : AnyError :=
    .reported (.of (.load path (some (cause, name))) s!"Failed to load {path}: {cause}" [])

end FileError

namespace LoadError

/-- The error for a file that could not be loaded. -/
def anyError (error : LoadError) : AnyError :=
  let path := error.path
  match error.reason with
  | .file reason =>
      reason.anyError path
  | .wrongLayout =>
      .reported (.of (.load path none)
        s!"{error.holding.subject} in {path} must be {error.holding.layouts}" [])
  | .invalid count =>
      let counted := s!"{count} error(s)"
      .reported (.of (.load path (some (counted, "ValidationError")))
        s!"Invalid {error.holding.inSentence} in {path}: {counted}" [])

end LoadError

namespace Inventory

/-- Read the document in a file that is meant to hold something; failures name the tidied path. -/
def document
    (readers : Readers)
    (holding : Holding)
    (path : String)
    (content : Content) :
    Except LoadError Value :=
  (File.read readers path content).mapError fun reason =>
    ⟨File.tidy path, holding, .file reason⟩

/-- Take what was checked, or fail with the number of complaints. -/
def settle
    (holding : Holding)
    (path : String) :
    Checked α → Except LoadError α
  | .valid value =>
      .ok value
  | .invalid complaints =>
      .error ⟨path, holding, .invalid complaints.length⟩

/-- The record of a group set in a document, if it has a layout for groups; a list is that of the groups. -/
def definitions? : Value → Option Value
  | .null =>
      some (.ofFields [("groups", .list [])])
  | .list items =>
      some (.ofFields [("groups", .list items)])
  | .map entries =>
      some (.map entries)
  | _ =>
      none

/-- Load a group set, handing out identifiers to its rules. -/
def groupSet
    (readers : Readers)
    (supply : IdSupply)
    (path : String)
    (content : Content) :
    Except LoadError GroupSet := do
  match definitions? (← document readers .groupSet path content) with
  | some definitions =>
      settle .groupSet path (GroupSet.read supply definitions)
  | none =>
      .error ⟨path, .groupSet, .wrongLayout⟩

/-- The facts among entries: those that are wrapped together with a name, or all entries. -/
def unwrapFacts (entries : Entries) : Entries :=
  match Entries.find? entries (.text "name"), Entries.find? entries (.text "values") with
  | some _, some (.map values) =>
      values
  | _, _ =>
      entries

/-- Load facts. -/
def facts
    (readers : Readers)
    (path : String)
    (content : Content) :
    Except LoadError Entries := do
  match ← document readers .facts path content with
  | .null =>
      return []
  | .map entries =>
      return unwrapFacts entries
  | _ =>
      .error ⟨path, .facts, .wrongLayout⟩

/-- The list of nodes in a document, if it has a layout for nodes. -/
def nodeItems? : Value → Option (List Value)
  | .null =>
      some []
  | .list items =>
      some items
  | .map entries =>
      match Entries.find? entries (.text "nodes") with
      | none =>
          some []
      | some (.list items) =>
          some items
      | some _ =>
          none
  | _ =>
      none

/-- Load nodes. -/
def nodes
    (readers : Readers)
    (path : String)
    (content : Content) :
    Except LoadError (List Node) := do
  match nodeItems? (← document readers .nodes path content) with
  | some items =>
      settle .nodes path (Node.readAll items)
  | none =>
      .error ⟨path, .nodes, .wrongLayout⟩

end Inventory

end FleetConfig
