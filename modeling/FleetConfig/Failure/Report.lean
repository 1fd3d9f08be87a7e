import FleetConfig.Text.Case
import FleetConfig.Text.Sorted
import FleetConfig.Value.Literal

/-!
# Error reports

An error report has a name, a message, a stable code and a context.  What kind
of error it is decides what goes into the context and which family of codes it
belongs to.  Errors of other kinds have only a name and arguments.
-/

namespace FleetConfig

/-- The kind of a reported error with what is particular to it. -/
inductive ErrorKind where
  | general
  | structural
  | cycles (paths : List (List String))
  | unknownParents (missing : List (String × String))
  | duplicateGroups (ids : List String)
  | capacity (limitName : String) (limit? actual? : Option Int)
  | load (path : String) (cause? : Option (String × String))
  deriving Repr, DecidableEq

/-- An error with a code and a context. -/
structure ErrorReport where
  kind : ErrorKind
  name : String
  message : String
  code : String
  context : Fields
  deriving Repr

/-- Any error: a report, or a name with arguments. -/
inductive AnyError where
  | reported (report : ErrorReport)
  | plain (name : String) (arguments : List Value)
  deriving Repr, Nonempty

namespace ErrorKind

/-- The name of the errors of a kind. -/
def name : ErrorKind → String
  | .general =>
      "NodeClassException"
  | .structural =>
      "StructuralError"
  | .cycles _ =>
      "CycleDetectedError"
  | .unknownParents _ =>
      "UnknownParentError"
  | .duplicateGroups _ =>
      "DuplicateGroupError"
  | .capacity .. =>
      "CapacityError"
  | .load .. =>
      "GroupSetLoadError"

/-- Whether the error lies in the structure of a group set. -/
def isStructural : ErrorKind → Bool
  | .structural =>
      true
  | .cycles _ =>
      true
  | .unknownParents _ =>
      true
  | .duplicateGroups _ =>
      true
  | _ =>
      false

/-- The beginning of the codes for a kind of errors. -/
def codePrefix (kind : ErrorKind) : String :=
  if kind.isStructural then "NC_STRUCT" else "NC"

/-- The groups that an error is about, if it is about groups. -/
def groupIds? : ErrorKind → Option (List String)
  | .cycles paths =>
      some (Text.distinctAscending paths.flatten)
  | .duplicateGroups ids =>
      some (Text.ascending ids)
  | _ =>
      none

/-- What a kind of errors adds to the context. -/
def details (kind : ErrorKind) : Fields :=
  match kind with
  | .general =>
      []
  | .structural =>
      []
  | .cycles paths =>
      [("cycles", .list (paths.map .texts)),
        ("group_ids", .texts (kind.groupIds?.getD []))]
  | .unknownParents missing =>
      [("missing_parents", .ofFields (missing.map fun (id, parent) => (id, .text parent)))]
  | .duplicateGroups _ =>
      [("group_ids", .texts (kind.groupIds?.getD []))]
  | .capacity limitName limit? actual? =>
      (if limitName.isEmpty then [] else [("limit_name", .text limitName)]) ++
        (limit?.map fun limit => ("limit", .integer limit)).toList ++
        (actual?.map fun actual => ("actual", .integer actual)).toList
  | .load path cause? =>
      (if path.isEmpty then [] else [("path", .text path)]) ++
        (match cause? with
          | some (cause, type) =>
              [("cause", .text cause), ("cause_type", .text type)]
          | none =>
              [])

end ErrorKind

namespace ErrorReport

/-- The words of a name: a new word starts at each ASCII capital letter but the first character. -/
def nameWords : List Char → List Char
  | [] =>
      []
  | first :: rest =>
      first :: rest.flatMap fun character =>
        if character.isUpper then ['_', character] else [character]

/-- The code for a kind of errors under a name. -/
def codeFor
    (kind : ErrorKind)
    (name : String) :
    String :=
  s!"{kind.codePrefix}_{Text.upper (String.ofList (nameWords name.toList))}"

/-- Report an error under a name; without a code of its own it gets the one for its name. -/
def named
    (name : String)
    (kind : ErrorKind)
    (message : String)
    (code : String)
    (context : Fields) :
    ErrorReport :=
  { kind,
    name,
    message,
    code := if code.isEmpty then codeFor kind name else code,
    context := context.overlay kind.details }

/-- Report an error of a kind. -/
def of
    (kind : ErrorKind)
    (message : String)
    (context : Fields) :
    ErrorReport :=
  named kind.name kind message "" context

/-- A report in one line. -/
def text (report : ErrorReport) : String :=
  s!"[{report.code}] - {report.message}"

/-- A report as a literal. -/
def literal (report : ErrorReport) : String :=
  s!"{report.name}(message='{report.message}', error_code='{report.code}')"

/-- A report as a record, without the time. -/
def toPlain (report : ErrorReport) : Value :=
  .ofFields
    [("error_type", .text report.name),
      ("error_code", .text report.code),
      ("message", .text report.message),
      ("context", .ofFields report.context)]

end ErrorReport

namespace AnyError

/-- The name of an error. -/
def name : AnyError → String
  | .reported report =>
      report.name
  | .plain name _ =>
      name

/-- A value as text: texts as they are, other values as literals. -/
def argumentText : Value → String
  | .text value =>
      value
  | value =>
      value.literal

/-- Values as literals, with commas between them. -/
def literals (arguments : List Value) : String :=
  ", ".intercalate (arguments.map Value.literal)

/-- An error as text; the argument of a key error is shown as a literal. -/
def text : AnyError → String
  | .reported report =>
      report.text
  | .plain _ [] =>
      ""
  | .plain name [argument] =>
      if name = "KeyError" then argument.literal else argumentText argument
  | .plain _ arguments =>
      "(" ++ literals arguments ++ ")"

/-- An error as a literal. -/
def literal : AnyError → String
  | .reported report =>
      report.literal
  | .plain name arguments =>
      name ++ "(" ++ literals arguments ++ ")"

/-- The lines for one error of a chain. -/
def chainLines : AnyError → List String
  | .reported report =>
      [report.text, s!"  Context: {(Value.ofFields report.context).literal}"]
  | error =>
      [s!"{error.name}: {error.text}"]

/-- A chain of errors, each caused by the next, in lines. -/
def chainText (errors : List AnyError) : String :=
  "\n".intercalate (errors.flatMap chainLines)

end AnyError

end FleetConfig
