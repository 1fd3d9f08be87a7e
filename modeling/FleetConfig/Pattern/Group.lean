import FleetConfig.Pattern.Escape
import FleetConfig.Pattern.Options
import FleetConfig.Text.Identifier

/-!
# Groups in patterns

Groups have numbers and may have names.  What an opening parenthesis starts shows
by the characters after it: a group, an option, a comment, a condition or a look
around.
-/

namespace FleetConfig.Pattern

open Reader

/-- Refuse a group name that is no identifier. -/
def checkName (name : String) : Reader Unit := do
  if !Text.isIdentifier name.toList then
    refuse (.badGroupName name) (name.length + 1)

/-- Open a group and return its number. -/
def openGroup (name? : Option String) : Reader Nat := do
  let progress ← get
  let group := progress.widths.length
  match name? with
  | none =>
      set { progress with widths := progress.widths ++ [none] }
      return group
  | some name =>
      match progress.names.lookup name with
      | some earlier =>
          refuse (.redefinedGroup name group earlier) (name.length + 1)
      | none =>
          set
            { progress with
              widths := progress.widths ++ [none]
              names := (name, group) :: progress.names }
          return group

/-- Close a group whose body has been read. -/
def closeGroup
    (group : Nat)
    (body : List Node) :
    Reader Unit :=
  modify fun progress =>
    { progress with widths := progress.widths.set group (some (sequenceWidth body)) }

/-- Read a reference to a group by name. -/
def readNamedReference : Reader Node := do
  let name ← takeName ')' "group name"
  checkName name
  match (← get).names.lookup name with
  | none =>
      refuse (.unknownGroupName name) (name.length + 1)
  | some group =>
      referTo group (name.length + 1)

/-- The greatest number of groups. -/
def groupLimit : Nat :=
  1073741823

/-- Read the group that a condition asks about. -/
def readCondition : Reader Nat := do
  let name ← takeName ')' "group name"
  let distance := name.length + 1
  let group ←
    if Text.isIdentifier name.toList then
      match (← get).names.lookup name with
      | none =>
          refuse (.unknownGroupName name) distance
      | some group =>
          pure group
    else
      match readInteger name with
      | .error _ =>
          refuse (.badGroupName name) distance
      | .ok number =>
          if number < 0 then
            refuse (.badGroupName name) distance
          else if number = 0 then
            refuse .badGroupNumber distance
          else if (groupLimit : Int) ≤ number then
            refuse (.unknownGroup number) distance
          else
            modify fun progress =>
              if (progress.conditions.lookup number.toNat).isSome then
                progress
              else
                { progress with
                  conditions :=
                    progress.conditions ++ [(number.toNat, progress.position - distance)] }
            pure number.toNat
  checkLookBehind group
  return group

/-- What an opening parenthesis starts. -/
inductive Opening where
  | capture (name? : Option String)
  | scoped (change : OptionChange)
  | wholeOptions
  | atomic
  | look (behind negated : Bool)
  | condition
  | reference
  | comment
  deriving Repr, DecidableEq

/-- Read what an opening parenthesis with `?P` starts. -/
def readNaming : Reader Opening := do
  if ← accept '<' then
    let name ← takeName '>' "group name"
    checkName name
    return .capture (some name)
  else do
    if ← accept '=' then
      return .reference
    else
      match ← take with
      | none =>
          refuse .unexpectedEnd
      | some token =>
          refuse (.unknownExtension ("?P" ++ token.text)) (token.length + 2)

/-- Read what an opening parenthesis starts. -/
def readOpening : Reader Opening := do
  if !(← accept '?') then
    return .capture none
  else
    match ← take with
    | none =>
        refuse .unexpectedEnd
    | some (.escaped letter) =>
        refuse (.unknownExtension (String.ofList ['?', '\\', letter])) 3
    | some (.plain character) =>
        match character with
        | 'P' =>
            readNaming
        | ':' =>
            return .scoped {}
        | '#' =>
            return .comment
        | '=' =>
            return .look false false
        | '!' =>
            return .look false true
        | '<' =>
            match ← take with
            | none =>
                refuse .unexpectedEnd
            | some token =>
                if token = .plain '=' then
                  return .look true false
                else if token = .plain '!' then
                  return .look true true
                else
                  refuse (.unknownExtension ("?<" ++ token.text)) (token.length + 2)
        | '(' =>
            return .condition
        | '>' =>
            return .atomic
        | _ =>
            if character = '-' || namesOption character then
              match ← readOptions character with
              | some change =>
                  return .scoped change
              | none =>
                  return .wholeOptions
            else
              refuse (.unknownExtension (String.ofList ['?', character])) 2

end FleetConfig.Pattern
