import FleetConfig.CommandLine.Command
import FleetConfig.CommandLine.Display
import FleetConfig.Document.Yaml.Writing
import FleetConfig.Inventory
import FleetConfig.Service.Basic
import FleetConfig.Value.Indented

/-!
# Running commands

A command is run where there are files and environment variables.  It ends with
a status and something to show or to print, or it is aborted by a failure that
is not reported.
-/

namespace FleetConfig

/-- Where a command is run, with identifiers for rules that have none. -/
structure Surroundings where
  files : String → Content
  lookUp : String → Option String
  supply : IdSupply

/-- What a command gives to the one who ran it. -/
inductive Output where
  | lines (lines : List String)
  | json (document : Value)
  | yaml (document : Value)
  deriving Repr

/-- Why a command is aborted. -/
inductive Abort where
  | load (error : LoadError)
  | node (complaints : List Complaint)
  | failure (failure : Failure)
  | markup
  deriving Repr

/-- How a command ends; what is shown before it is aborted stays shown. -/
inductive Ending where
  | finished (status : Nat) (output : Output)
  | aborted (reason : Abort) (shown : List String)
  deriving Repr

namespace Output

/-- What an output looks like. -/
def text : Output → String
  | .lines written =>
      "".intercalate (written.map (· ++ "\n"))
  | .json document =>
      document.indentedJson ++ "\n"
  | .yaml document =>
      Yaml.write document

end Output

namespace Ending

/-- Show parts of a display. -/
def shown
    (status : Nat)
    (blocks : List Block) :
    Ending :=
  match Display.lines? blocks with
  | some lines =>
      .finished status (.lines lines)
  | none =>
      .aborted .markup (Display.linesBeforeRefusal blocks)

/-- Show an error message. -/
def failed
    (message : String)
    (status : Nat) :
    Ending :=
  shown status [.text s!"[red]Error:[/red] {Markup.escape message}"]

/-- Show that a file could not be loaded. -/
def notLoaded (error : LoadError) : Ending :=
  match error.anyError with
  | .reported report =>
      failed report.message 2
  | .plain .. =>
      .aborted (.load error) []

end Ending

namespace Command

/-- The version of the program. -/
def version : String :=
  "0.4.0"

/-- The formats in which a classification can be given. -/
def formats : List String :=
  ["table", "json", "yaml", "enc"]

/-- The beginning of a version or a digest, which is enough to recognise it. -/
def brief (version : String) : String :=
  String.ofList (version.toList.take 12)

/-- A text, or a hyphen for none. -/
def orHyphen : Option String → String
  | some text =>
      if text.isEmpty then "-" else text
  | none =>
      "-"

/-- Texts with commas between them. -/
def listed (texts : List String) : String :=
  ", ".intercalate texts

/-- The rows for payload entries under the name of their scope. -/
def payloadRows
    (scope : String)
    (fields : Fields) :
    List (List String) :=
  fields.map fun (key, value) => [scope, key, value.spacedJson]

/-- The part of the display for a conflict. -/
def conflictBlock (conflict : Conflict) : Block :=
  let place := s!"{conflict.scope.name} '{conflict.key}' at depth {conflict.depth}"
  .text (s!"[yellow]Conflict:[/yellow] {place} between {listed conflict.groupIds}; using " ++
    Markup.escape conflict.chosen.spacedJson)

/-- The part of the display for a problem with a rule. -/
def errorBlock (error : RuleError) : Block :=
  let group := error.group?.getD ""
  let message := Markup.escape error.problem.message
  .text (s!"[red]Rule error:[/red] {error.problem.kind.name} in group {group} " ++
    s!"rule {error.rule}: {message}")

/-- The display of a classification. -/
def classificationBlocks (resolved : ResolvedConfiguration) : List Block :=
  let payload :=
    payloadRows "parameter" resolved.parameters ++ payloadRows "variable" resolved.globals
  [.panel "Classification"
      ("\n".intercalate
        [s!"[bold]{resolved.certname}[/bold]",
          s!"Environment: {orHyphen resolved.environment?}",
          s!"Group set: {brief resolved.version}"]),
    .table "Matched groups" ["Group", "Depth", "Match", "Rules"]
      (resolved.groups.map fun found =>
        [found.group, toString found.depth, found.reason.name, listed found.matchedRules]),
    .text s!"[bold]Classes:[/bold] {orHyphen (some (listed resolved.classes))}"] ++
    (if payload.isEmpty then [] else [.table "Parameters" ["Scope", "Key", "Value"] payload]) ++
    resolved.conflicts.map conflictBlock ++ resolved.errors.map errorBlock

/-- The display of a hierarchy. -/
def hierarchyBlocks
    (groupSet : GroupSet)
    (hierarchy : Hierarchy) :
    List Block :=
  let rows := hierarchy.order.map fun id =>
    [id, ((groupSet.find? id).map (·.name)).getD "", orHyphen (hierarchy.parents.parent? id),
      toString ((hierarchy.depth? id).getD 0)]
  [.table s!"Group hierarchy ({hierarchy.order.length} groups)"
      ["Group", "Name", "Parent", "Depth"] rows,
    .text s!"[green]✓[/green] Hierarchy valid (version {brief groupSet.version})"]

/-- The display of a report that a hierarchy is not valid. -/
def invalidBlocks (report : ErrorReport) : List Block :=
  .text s!"[red]✗[/red] Invalid hierarchy: {Markup.escape report.message}" ::
    report.context.map fun (key, value) =>
      .text s!"  [dim]{key}:[/dim] {Markup.escape (AnyError.argumentText value)}"

/-- The display of the nodes of a group. -/
def membersBlocks
    (group : String)
    (certnames : List String) :
    List Block :=
  if certnames.isEmpty then
    [.text s!"[yellow]No nodes in group '{group}'[/yellow]"]
  else
    [.table s!"Nodes in {group}" ["Certname"] (certnames.map fun certname => [certname])]

/-- A classification in a format. -/
def classificationEnding
    (format : String)
    (resolved : ResolvedConfiguration) :
    Ending :=
  if format = "json" then
    .finished 0 (.json resolved.toPlain)
  else if format = "yaml" then
    .finished 0 (.yaml resolved.toPlain)
  else if format = "enc" then
    .finished 0 (.yaml resolved.toAgentDocument)
  else
    .shown 0 (classificationBlocks resolved)

/-- The ending for a failure to classify a node. -/
def classificationFailure : Failure → Ending
  | .rejected error =>
      let report := error.report
      if report.kind.isStructural then
        .failed s!"{report.message} ({report.code})" 1
      else
        .failed report.message 1
  | failure =>
      .aborted (.failure failure) []

/-- The ending for a failure to validate a hierarchy. -/
def validationFailure : Failure → Ending
  | .rejected error =>
      let report := error.report
      if report.kind.isStructural then
        .shown 1 (invalidBlocks report)
      else
        .failed report.message 1
  | failure =>
      .aborted (.failure failure) []

/-- The ending for a failure to find the nodes of a group. -/
def membersFailure (group : String) : Failure → Ending
  | .rejected error =>
      .failed error.report.message 1
  | .groupNotFound _ =>
      .failed s!"Group '{group}' does not exist" 1
  | failure =>
      .aborted (.failure failure) []

/-- Go on with a result, or end with an error. -/
def orEnd
    (outcome : Except ε α)
    (ending : ε → Ending)
    (next : α → Ending) :
    Ending :=
  match outcome with
  | .ok result =>
      next result
  | .error error =>
      ending error

/-- The service that a command works with. -/
def service (surroundings : Surroundings) : Service :=
  .create (.ofVariables surroundings.lookUp) .zero

/-- Load something from a file, or end if that fails. -/
def loading
    (surroundings : Surroundings)
    (path : String)
    (load : String → Content → Except LoadError α)
    (next : α → Ending) :
    Ending :=
  let tidied := File.tidy path
  orEnd (load tidied (surroundings.files tidied)) Ending.notLoaded next

/-- Classify a node. -/
def runClassify
    (surroundings : Surroundings)
    (certname groups facts : String)
    (environment? : Option String)
    (format : String) :
    Ending :=
  if !formats.contains format then
    .failed s!"Unknown format '{format}'. Choose from: {listed formats}" 2
  else
    loading surroundings groups (Inventory.groupSet .standard surroundings.supply) fun groupSet =>
      loading surroundings facts (Inventory.facts .standard) fun entries =>
        let described := Value.ofFields
          [("certname", .text certname), ("facts", .map entries),
            ("environment", .optionalText environment?)]
        match Node.read described with
        | .invalid complaints =>
            .aborted (.node complaints) []
        | .valid node =>
            orEnd ((service surroundings).classify node groupSet).1 classificationFailure
              (classificationEnding format)

/-- Validate the hierarchy of a group set. -/
def runValidate
    (surroundings : Surroundings)
    (groups : String) :
    Ending :=
  loading surroundings groups (Inventory.groupSet .standard surroundings.supply) fun groupSet =>
    orEnd ((service surroundings).validate groupSet).1 validationFailure fun hierarchy =>
      .shown 0 (hierarchyBlocks groupSet hierarchy)

/-- List the nodes of a group. -/
def runMembers
    (surroundings : Surroundings)
    (group groups nodes format : String) :
    Ending :=
  loading surroundings groups (Inventory.groupSet .standard surroundings.supply) fun groupSet =>
    loading surroundings nodes (Inventory.nodes .standard) fun inventory =>
      orEnd ((service surroundings).nodesInGroup group inventory groupSet).1
        (membersFailure group) fun certnames =>
          if format = "json" then
            .finished 0 (.json (.ofFields [("group_id", .text group), ("nodes", .texts certnames)]))
          else
            .shown 0 (membersBlocks group certnames)

/-- Run a command. -/
def run (surroundings : Surroundings) : Command → Ending
  | .showVersion =>
      .shown 0 [.text s!"nodeclass {version}"]
  | .classify certname groups facts environment? format =>
      runClassify surroundings certname groups facts environment? format
  | .validate groups =>
      runValidate surroundings groups
  | .members group groups nodes format =>
      runMembers surroundings group groups nodes format

end Command

end FleetConfig
