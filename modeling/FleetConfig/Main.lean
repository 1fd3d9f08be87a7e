import FleetConfig.CommandLine.Running

/-!
# The program

The outer layer: it takes the arguments, fetches the files and environment
variables that the command needs, and prints how the command ends.
-/

open FleetConfig

/-- What the file system gives for a path. -/
def contentAt (path : String) : IO Content := do
  try
    return .ok (← IO.FS.readBinFile path)
  catch error =>
    match error with
    | .permissionDenied .. =>
        return .error .notPermitted
    | .inappropriateType .. =>
        return .error .isDirectory
    | _ =>
        return .error .notFound

/-- What there is around a command; the identifiers for rules start with a random number. -/
def surroundingsOf (command : Command) : IO Surroundings := do
  let contents ← command.paths.mapM fun path => do
    let tidied := File.tidy path
    return (tidied, ← contentAt tidied)
  let values ← Settings.variableNames.mapM fun name =>
    return (name, ← IO.getEnv name)
  let number ← IO.rand 1 (Nat.pow 2 96)
  return {
    files := fun path => (contents.lookup path).getD (.error .notFound)
    lookUp := fun name => (values.lookup name).join
    supply := .numbered number }

/-- What is printed about a reason to abort. -/
def abortText : Abort → String
  | .load error =>
      s!"the file {error.path} cannot be read"
  | .node complaints =>
      s!"the node has {complaints.length} error(s)"
  | .failure _ =>
      "a rule or a payload cannot be handled"
  | .markup =>
      "a text closes a style that is not open"

/-- Run the command that the arguments name and return its status. -/
def main (arguments : List String) : IO UInt32 := do
  match Command.read arguments with
  | none =>
      IO.eprintln "Usage: nodeclass [--verbose] [--version] classify|validate|members ..."
      return 2
  | some command =>
      match command.run (← surroundingsOf command) with
      | .finished status output =>
          IO.print output.text
          return status.toUInt32
      | .aborted reason shown =>
          IO.print (Output.lines shown).text
          IO.eprintln (abortText reason)
          return 1
