import FleetConfig.Pattern.Error

/-!
# The width of patterns

The least and the greatest number of characters that a pattern can match, up to
a bound that stands for all greater numbers.  `check` refuses patterns that look
behind over a width that is not fixed, and repetitions where none are allowed.
-/

namespace FleetConfig.Pattern

namespace Width

/-- The bound that stands for all greater widths. -/
def bound : Nat :=
  Nat.pow 2 64

/-- The width of nothing. -/
def zero : Width :=
  ⟨0, 0⟩

/-- The width of one character. -/
def one : Width :=
  ⟨1, 1⟩

/-- The width of one pattern after another. -/
def plus (left right : Width) : Width :=
  ⟨min (left.least + right.least) bound, min (left.greatest + right.greatest) bound⟩

/-- The width of one pattern or another. -/
def or (left right : Width) : Width :=
  ⟨min left.least right.least, max left.greatest right.greatest⟩

/-- The width of a repetition. -/
def times
    (width : Width)
    (least : Nat)
    (most? : Option Nat) :
    Width :=
  let greatest :=
    match most? with
    | some most =>
        width.greatest * most
    | none =>
        if width.greatest = 0 then 0 else bound
  ⟨min (width.least * least) bound, min greatest bound⟩

end Width

mutual

/-- The width of one part. -/
def Node.width : Node → Width
  | .character _ | .set .. | .any =>
      .one
  | .anchor _ | .look .. =>
      .zero
  | .alternatives branches =>
      branchesWidth branches
  | .capture _ body | .scoped _ body | .atomic body =>
      sequenceWidth body
  | .repeated least most? _ body =>
      (sequenceWidth body).times least most?
  | .backreference _ width =>
      width
  | .conditional _ present absent =>
      (sequenceWidth present).or (sequenceWidth absent)

/-- The width of parts one after the other. -/
def sequenceWidth : List Node → Width
  | [] =>
      .zero
  | node :: rest =>
      node.width.plus (sequenceWidth rest)

/-- The width of alternatives; without any branch nothing matches. -/
def branchesWidth : List (List Node) → Width
  | [] =>
      ⟨Width.bound, 0⟩
  | branch :: rest =>
      (sequenceWidth branch).or (branchesWidth rest)

end

/-- The greatest number of characters that a pattern may look behind. -/
def lookBehindLimit : Nat :=
  Nat.pow 2 32 - 1

/-- Why a part may not look behind over a width. -/
def lookBehindProblem? (width : Width) : Option Reason :=
  if lookBehindLimit < width.least then
    some .lookBehindTooLong
  else if width.least ≠ width.greatest then
    some .variableLookBehind
  else
    none

mutual

/-- The first problem in one part. -/
def Node.problem? (options : Options) : Node → Option Reason
  | .character _ | .set .. | .any | .anchor _ | .backreference .. =>
      none
  | .alternatives branches =>
      branchesProblem? options branches
  | .capture _ body | .atomic body =>
      sequenceProblem? options body
  | .scoped change body =>
      sequenceProblem? (options.apply change) body
  | .repeated _ _ greed body =>
      if options.withoutRepeats then
        some (.repeatForbidden greed)
      else
        sequenceProblem? options body
  | .look behind _ body =>
      match if behind then lookBehindProblem? (sequenceWidth body) else none with
      | some reason =>
          some reason
      | none =>
          sequenceProblem? options body
  | .conditional _ present absent =>
      (sequenceProblem? options present).orElse fun _ => sequenceProblem? options absent

/-- The first problem in parts one after the other. -/
def sequenceProblem? (options : Options) : List Node → Option Reason
  | [] =>
      none
  | node :: rest =>
      (node.problem? options).orElse fun _ => sequenceProblem? options rest

/-- The first problem in alternatives. -/
def branchesProblem? (options : Options) : List (List Node) → Option Reason
  | [] =>
      none
  | branch :: rest =>
      (sequenceProblem? options branch).orElse fun _ => branchesProblem? options rest

end

end FleetConfig.Pattern
