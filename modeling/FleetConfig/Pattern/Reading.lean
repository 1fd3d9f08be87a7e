import FleetConfig.Pattern.CharacterSet
import FleetConfig.Pattern.Group
import FleetConfig.Pattern.Repetition

/-!
# Reading patterns

A pattern is a list of alternatives, an alternative a list of parts, and a part may
be a group with alternatives of its own.  A budget of steps, which the length of
the pattern always covers, bounds the nesting.
-/

namespace FleetConfig.Pattern

open Reader

/-- Skip a comment in parentheses. -/
def skipComment (start : Nat) : (budget : Nat) → Reader Unit
  | 0 =>
      refuse .unterminatedComment
  | budget + 1 => do
      match ← take with
      | none =>
          refuse .unterminatedComment ((← get).position - start)
      | some token =>
          if token = .plain ')' then
            return ()
          else
            skipComment start budget

/-- Skip a comment up to the end of its line. -/
def skipLine : (budget : Nat) → Reader Unit
  | 0 =>
      return ()
  | budget + 1 => do
      match ← take with
      | none =>
          return ()
      | some token =>
          if token = .plain '\n' then
            return ()
          else
            skipLine budget

/-- Whether a character is skipped in a verbose pattern. -/
def isVerboseBlank (character : Char) : Bool :=
  character == ' ' || (9 ≤ character.toNat && character.toNat ≤ 13)

/-- Expect the end of a group that started at a position. -/
def expectEnd (start : Nat) : Reader Unit := do
  if !(← accept ')') then
    refuse .unterminatedGroup ((← get).position - start)

/-- Whether a group is read in verbose form. -/
def verboseInside
    (verbose : Bool)
    (change : OptionChange) :
    Bool :=
  (verbose || change.on.verbose) && !change.off.verbose

mutual

/--
Read alternatives.  Only at the top does the verbose form of the whole pattern
take effect, and only the first alternative there may set its options.
-/
def readAlternatives : (budget : Nat) → (verbose isTop : Bool) → Reader (List Node)
  | 0, _, _ =>
      refuse .unexpectedEnd
  | budget + 1, verbose, isTop => do
      let first ← readSequence budget verbose isTop []
      let others ← readBranches budget verbose isTop
      if others.isEmpty then
        return first
      else
        return [.alternatives (first :: others)]

/-- Read the alternatives after the first. -/
def readBranches : (budget : Nat) → (verbose isTop : Bool) → Reader (List (List Node))
  | 0, _, _ =>
      return []
  | budget + 1, verbose, isTop => do
      if ← accept '|' then
        let progress ← get
        let verboseHere := if isTop then progress.options.verbose else verbose
        let branch ← readSequence budget verboseHere false []
        return branch :: (← readBranches budget verboseHere isTop)
      else
        return []

/-- Read parts up to the end of the alternative; the parts read come last first. -/
def readSequence :
    (budget : Nat) → (verbose isFirst : Bool) → (items : List Node) → Reader (List Node)
  | 0, _, _, _ =>
      refuse .unexpectedEnd
  | budget + 1, verbose, isFirst, items => do
      match ← peek with
      | none =>
          return items.reverse
      | some (.escaped letter) =>
          let _ ← take
          readSequence budget verbose isFirst ((← readEscape letter) :: items)
      | some (.plain character) =>
          if character = '|' || character = ')' then
            return items.reverse
          else
            let start := (← get).position
            let _ ← take
            if verbose && isVerboseBlank character then
              readSequence budget verbose isFirst items
            else if verbose && character = '#' then
              skipLine ((← get).rest.length + 1)
              readSequence budget verbose isFirst items
            else
              match character with
              | '[' =>
                  readSequence budget verbose isFirst ((← readSet) :: items)
              | '.' =>
                  readSequence budget verbose isFirst (.any :: items)
              | '^' =>
                  readSequence budget verbose isFirst (.anchor .lineStart :: items)
              | '$' =>
                  readSequence budget verbose isFirst (.anchor .lineEnd :: items)
              | '?' =>
                  readSequence budget verbose isFirst (← repeatLast start 0 (some 1) items)
              | '*' =>
                  readSequence budget verbose isFirst (← repeatLast start 0 none items)
              | '+' =>
                  readSequence budget verbose isFirst (← repeatLast start 1 none items)
              | '\x7b' =>
                  match ← readBounds? with
                  | some (least, most?) =>
                      readSequence budget verbose isFirst (← repeatLast start least most? items)
                  | none =>
                      readSequence budget verbose isFirst (.character character.toNat :: items)
              | '(' =>
                  readGroup budget verbose isFirst start items
              | _ =>
                  readSequence budget verbose isFirst (.character character.toNat :: items)

/-- Read a group after its opening parenthesis, and the parts after it. -/
def readGroup :
    (budget : Nat) → (verbose isFirst : Bool) → (start : Nat) → (items : List Node) →
      Reader (List Node)
  | 0, _, _, _, _ =>
      refuse .unexpectedEnd
  | budget + 1, verbose, isFirst, start, items => do
      match ← readOpening with
      | .comment =>
          skipComment start ((← get).rest.length + 1)
          readSequence budget verbose isFirst items
      | .wholeOptions =>
          if !isFirst || !items.isEmpty then
            refuse .optionsNotAtStart ((← get).position - start)
          else
            readSequence budget (← get).options.verbose isFirst items
      | .reference =>
          readSequence budget verbose isFirst ((← readNamedReference) :: items)
      | .capture name? =>
          let group ← openGroup name?
          let body ← readAlternatives budget verbose false
          expectEnd start
          closeGroup group body
          readSequence budget verbose isFirst (.capture group body :: items)
      | .scoped change =>
          let body ← readAlternatives budget (verboseInside verbose change) false
          expectEnd start
          readSequence budget verbose isFirst (.scoped change body :: items)
      | .atomic =>
          let body ← readAlternatives budget verbose false
          expectEnd start
          readSequence budget verbose isFirst (.atomic body :: items)
      | .look behind negated =>
          let outer := (← get).lookBehindGroups?
          if behind && outer.isNone then
            modify fun progress =>
              { progress with lookBehindGroups? := some progress.widths.length }
          let body ← readAlternatives budget verbose false
          if behind && outer.isNone then
            modify fun progress => { progress with lookBehindGroups? := none }
          expectEnd start
          readSequence budget verbose isFirst (.look behind negated body :: items)
      | .condition =>
          let group ← readCondition
          let present ← readSequence budget verbose false []
          let absent ←
            if ← accept '|' then
              let branch ← readSequence budget verbose false []
              if (← peek) = some (.plain '|') then
                refuse .tooManyBranches
              pure branch
            else
              pure []
          expectEnd start
          readSequence budget verbose isFirst (.conditional group present absent :: items)

end

/-- Check, when all groups are known, that every condition asks about one of them. -/
def checkConditions : List (Nat × Nat) → Reader Unit
  | [] =>
      return ()
  | (group, position) :: rest => do
      let progress ← get
      if progress.widths.length ≤ group then
        refuse (.unknownGroup group) (progress.position - position)
      else
        checkConditions rest

/-- Read a whole pattern. -/
def readPattern : Reader (List Node) := do
  refuseLoneBackslash
  let nodes ← readAlternatives (4 * ((← get).rest.length + 1)) false true
  let options := (← get).options
  if options.ascii && options.unicode then
    stop .incompatibleCharacterSets
  else if (← peek).isSome then
    refuse .unbalancedParenthesis
  else
    checkConditions (← get).conditions
    return nodes

end FleetConfig.Pattern
