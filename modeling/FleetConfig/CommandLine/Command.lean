/-!
# Commands

The arguments of the program name a command and give what it needs.  Options
have a value, which follows or is attached; the last value given counts.  After
two hyphens nothing is an option any more.
-/

namespace FleetConfig

/-- A command with what it needs. -/
inductive Command where
  | showVersion
  | classify (certname groups facts : String) (environment? : Option String) (format : String)
  | validate (groups : String)
  | members (group groups nodes format : String)
  deriving Repr, DecidableEq

/-- Arguments sorted into options with their values, the last first, and the rest. -/
structure SortedArguments where
  options : List (String × String)
  others : List String
  deriving Repr, DecidableEq

/-- The short and long ways to write options, each with the name of the option. -/
abbrev OptionNames :=
  List (String × String)

namespace SortedArguments

/-- No arguments. -/
def empty : SortedArguments :=
  ⟨[], []⟩

/-- Arguments after an option with its value. -/
def withOption
    (sorted : SortedArguments)
    (name value : String) :
    SortedArguments :=
  { sorted with options := sorted.options ++ [(name, value)] }

/-- Arguments after one that is no option. -/
def withOther
    (sorted : SortedArguments)
    (argument : String) :
    SortedArguments :=
  { sorted with others := argument :: sorted.others }

/-- The value of an option. -/
def value?
    (sorted : SortedArguments)
    (name : String) :
    Option String :=
  sorted.options.lookup name

end SortedArguments

namespace Command

/-- Whether an argument is written like an option. -/
def isOption (argument : String) : Bool :=
  argument.startsWith "-" && 1 < argument.length

/-- The option that an argument names, with the value attached to it. -/
def splitOption?
    (names : OptionNames)
    (argument : String) :
    Option (String × Option String) :=
  let characters := argument.toList
  if argument.startsWith "--" then
    let long := String.ofList (characters.takeWhile (· != '='))
    (names.lookup long).map fun name =>
      match characters.dropWhile (· != '=') with
      | [] =>
          (name, none)
      | _ :: value =>
          (name, some (String.ofList value))
  else
    (names.lookup (String.ofList (characters.take 2))).map fun name =>
      match characters.drop 2 with
      | [] =>
          (name, none)
      | value =>
          (name, some (String.ofList value))

/-- Sort arguments; none if an option is unknown or lacks its value. -/
def sortArguments? (names : OptionNames) : List String → Option SortedArguments
  | [] =>
      some .empty
  | argument :: rest =>
      if argument = "--" then
        some ⟨[], rest⟩
      else if isOption argument then
        match splitOption? names argument with
        | some (name, some value) =>
            (sortArguments? names rest).map (·.withOption name value)
        | some (name, none) =>
            match rest with
            | value :: others =>
                (sortArguments? names others).map (·.withOption name value)
            | [] =>
                none
        | none =>
            none
      else
        (sortArguments? names rest).map (·.withOther argument)

/-- The ways to write the option for the groups. -/
def groupsOption : OptionNames :=
  [("--groups", "groups"), ("-g", "groups")]

/-- Read the arguments of `classify`. -/
def readClassify (arguments : List String) : Option Command := do
  let sorted ← sortArguments?
    (groupsOption ++ [("--facts", "facts"), ("-f", "facts"), ("--environment", "environment"),
      ("-e", "environment"), ("--format", "format")]) arguments
  let [certname] := sorted.others | none
  return .classify certname (← sorted.value? "groups") (← sorted.value? "facts")
    (sorted.value? "environment") ((sorted.value? "format").getD "table")

/-- Read the arguments of `validate`. -/
def readValidate (arguments : List String) : Option Command := do
  let sorted ← sortArguments? groupsOption arguments
  let [] := sorted.others | none
  return .validate (← sorted.value? "groups")

/-- Read the arguments of `members`. -/
def readMembers (arguments : List String) : Option Command := do
  let sorted ← sortArguments?
    (groupsOption ++ [("--nodes", "nodes"), ("-n", "nodes"), ("--format", "format")]) arguments
  let [group] := sorted.others | none
  return .members group (← sorted.value? "groups") (← sorted.value? "nodes")
    ((sorted.value? "format").getD "table")

/-- Read the name of a command and its arguments. -/
def readNamed : List String → Option Command
  | "classify" :: arguments =>
      readClassify arguments
  | "validate" :: arguments =>
      readValidate arguments
  | "members" :: arguments =>
      readMembers arguments
  | _ =>
      none

/-- Whether an argument only asks for more messages in the log. -/
def asksForLog (argument : String) : Bool :=
  argument = "--verbose" || (isOption argument && (argument.toList.drop 1).all (· == 'v'))

/-- Read the arguments of the program; asking for the version goes before any command. -/
def readAfter (wantsVersion : Bool) : List String → Option Command
  | [] =>
      if wantsVersion then some .showVersion else none
  | argument :: rest =>
      if argument = "--version" then
        readAfter true rest
      else if asksForLog argument then
        readAfter wantsVersion rest
      else if isOption argument && argument != "--" then
        none
      else if wantsVersion then
        some .showVersion
      else
        readNamed (if argument = "--" then rest else argument :: rest)

/-- Read the arguments of the program; none if they do not make a command. -/
def read (arguments : List String) : Option Command :=
  readAfter false arguments

/-- The paths of the files that a command reads. -/
def paths : Command → List String
  | .showVersion =>
      []
  | .classify _ groups facts _ _ =>
      [groups, facts]
  | .validate groups =>
      [groups]
  | .members _ groups nodes _ =>
      [groups, nodes]

end Command

end FleetConfig
