import FleetConfig.Number.IntegerText

/-!
# Patterns

The parts of a regular expression.  Characters are given by code point, because
a pattern may name code points that no text holds.  A part that changes options
carries the change, and a matcher applies it to the parts inside.
-/

namespace FleetConfig.Pattern

/-- The options that a pattern is matched or read under. -/
structure Options where
  ignoreCase : Bool := false
  multiline : Bool := false
  dotMatchesAll : Bool := false
  asciiOnly : Bool := false
  verbose : Bool := false
  withoutRepeats : Bool := false
  deriving Repr, DecidableEq

/-- A set of options to turn on or off; the two character sets are named apart. -/
structure OptionSet where
  ignoreCase : Bool := false
  multiline : Bool := false
  dotMatchesAll : Bool := false
  ascii : Bool := false
  unicode : Bool := false
  verbose : Bool := false
  withoutRepeats : Bool := false
  deriving Repr, DecidableEq

/-- The options that a part of a pattern turns on and off. -/
structure OptionChange where
  on : OptionSet := {}
  off : OptionSet := {}
  deriving Repr, DecidableEq

namespace OptionSet

/-- The options that are in either set. -/
def union (left right : OptionSet) : OptionSet where
  ignoreCase :=
    left.ignoreCase || right.ignoreCase
  multiline :=
    left.multiline || right.multiline
  dotMatchesAll :=
    left.dotMatchesAll || right.dotMatchesAll
  ascii :=
    left.ascii || right.ascii
  unicode :=
    left.unicode || right.unicode
  verbose :=
    left.verbose || right.verbose
  withoutRepeats :=
    left.withoutRepeats || right.withoutRepeats

/-- Whether two sets share an option. -/
def overlaps (left right : OptionSet) : Bool :=
  (left.ignoreCase && right.ignoreCase) || (left.multiline && right.multiline) ||
    (left.dotMatchesAll && right.dotMatchesAll) || (left.ascii && right.ascii) ||
    (left.unicode && right.unicode) || (left.verbose && right.verbose) ||
    (left.withoutRepeats && right.withoutRepeats)

/-- The options of a whole pattern. -/
def toOptions (set : OptionSet) : Options where
  ignoreCase :=
    set.ignoreCase
  multiline :=
    set.multiline
  dotMatchesAll :=
    set.dotMatchesAll
  asciiOnly :=
    set.ascii
  verbose :=
    set.verbose
  withoutRepeats :=
    set.withoutRepeats

end OptionSet

namespace Options

/-- Apply a change to options; naming a character set replaces the one in use. -/
def apply
    (options : Options)
    (change : OptionChange) :
    Options where
  ignoreCase :=
    (options.ignoreCase || change.on.ignoreCase) && !change.off.ignoreCase
  multiline :=
    (options.multiline || change.on.multiline) && !change.off.multiline
  dotMatchesAll :=
    (options.dotMatchesAll || change.on.dotMatchesAll) && !change.off.dotMatchesAll
  asciiOnly :=
    change.on.ascii || (options.asciiOnly && !change.on.unicode)
  verbose :=
    (options.verbose || change.on.verbose) && !change.off.verbose
  withoutRepeats :=
    options.withoutRepeats

end Options

/-- A class of characters with a short name. -/
inductive Category where
  | digit
  | blank
  | word
  deriving Repr, DecidableEq

/-- One item of a set of characters. -/
inductive SetItem where
  | single (code : Nat)
  | range (first last : Nat)
  | category (kind : Category) (negated : Bool)
  deriving Repr, DecidableEq

/-- A place in a text. -/
inductive Anchor where
  | lineStart
  | lineEnd
  | textStart
  | textEnd
  | boundary
  | noBoundary
  deriving Repr, DecidableEq

/-- Which number of repetitions is tried first, and whether others are tried at all. -/
inductive Greed where
  | greedy
  | lazy
  | possessive
  deriving Repr, DecidableEq

/-- The least and the greatest number of characters that a pattern can match. -/
structure Width where
  least : Nat
  greatest : Nat
  deriving Repr, DecidableEq

/-- One part of a pattern. -/
inductive Node where
  | character (code : Nat)
  | set (negated : Bool) (items : List SetItem)
  | any
  | anchor (anchor : Anchor)
  | alternatives (branches : List (List Node))
  | capture (group : Nat) (body : List Node)
  | scoped (change : OptionChange) (body : List Node)
  | atomic (body : List Node)
  | repeated (least : Nat) (most? : Option Nat) (greed : Greed) (body : List Node)
  | look (behind negated : Bool) (body : List Node)
  | backreference (group : Nat) (width : Width)
  | conditional (group : Nat) (present absent : List Node)
  deriving Repr

end FleetConfig.Pattern
