import FleetConfig.Pattern.Reader

/-!
# Repetitions in patterns

A repetition says how often the part before it may occur and how greedy it is.
Anchors and repetitions themselves are not repeated.
-/

namespace FleetConfig.Pattern

open Reader

/-- The greatest number of repetitions, which stands for no limit. -/
def repetitionLimit : Nat :=
  4294967295

/-- Read a number of repetitions. -/
def repetitionCount (digits : List Char) : Reader Nat :=
  match readInteger (String.ofList digits) with
  | .error reason =>
      stop (.unreadableRepetition reason)
  | .ok number =>
      if repetitionLimit ≤ number.toNat then
        stop .repetitionTooLarge
      else
        return number.toNat

/-- Read the bounds of a repetition after the opening brace; without bounds the brace is a character. -/
def readBounds? : Reader (Option (Nat × Option Nat)) := do
  let before ← get
  if (← peek) = some (.plain '\x7d') then
    return none
  else
    let low ← takeWhile Char.isDigit
    let high ← if ← accept ',' then takeWhile Char.isDigit else pure low
    if ← accept '\x7d' then
      let least ← if low.isEmpty then pure 0 else repetitionCount low
      if high.isEmpty then
        return some (least, none)
      else
        let most ← repetitionCount high
        if most < least then
          refuse .leastAboveMost ((← get).position - before.position)
        else
          return some (least, some most)
    else
      set before
      return none

/-- Refuse to repeat an item that cannot be repeated. -/
def checkRepeatable
    (item? : Option Node)
    (distance : Nat) :
    Reader Unit := do
  match item? with
  | none =>
      refuse .nothingToRepeat distance
  | some (.anchor _) =>
      refuse .nothingToRepeat distance
  | some (.repeated ..) =>
      refuse .multipleRepeat distance
  | some _ =>
      return ()

/-- Read how greedy a repetition is. -/
def readGreed : Reader Greed := do
  if ← accept '?' then
    return .lazy
  else do
    if ← accept '+' then
      return .possessive
    else
      return .greedy

/-- Turn the last item read into a repetition; the items come last first. -/
def repeatLast
    (start least : Nat)
    (most? : Option Nat)
    (items : List Node) :
    Reader (List Node) := do
  checkRepeatable items.head? ((← get).position - start)
  let greed ← readGreed
  match items with
  | [] =>
      return []
  | item :: rest =>
      let body :=
        match item with
        | .scoped change inner =>
            if change = {} then inner else [item]
        | _ =>
            [item]
      return .repeated least most? greed body :: rest

end FleetConfig.Pattern
