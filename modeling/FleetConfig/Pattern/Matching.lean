import FleetConfig.Pattern.Width
import FleetConfig.Text.Blank
import FleetConfig.Text.Case
import FleetConfig.Text.Word

/-!
# Matching

A backtracking matcher: each part takes a place in the text and a continuation
for the parts after it, and tries its possibilities in order until the
continuation succeeds.  A repetition stops when an iteration has matched
nothing, so the length of the text that is left bounds it.
-/

namespace FleetConfig.Pattern

/-- A place in the text and the marks set so far, latest first: two marks for each group. -/
structure Place where
  position : Nat
  marks : List (Nat × Nat)
  deriving Repr, DecidableEq

/-- What is to be matched from a place on. -/
abbrev Continuation :=
  Place → Option Place

namespace Place

/-- Set a mark at the position. -/
def mark
    (place : Place)
    (number : Nat) :
    Place :=
  { place with marks := (number, place.position) :: place.marks }

/-- The start and the end of what a group has matched. -/
def group?
    (place : Place)
    (group : Nat) :
    Option (Nat × Nat) :=
  match place.marks.lookup (2 * group), place.marks.lookup (2 * group + 1) with
  | some start, some finish =>
      if start ≤ finish then some (start, finish) else none
  | _, _ =>
      none

/-- Move forward. -/
def advance
    (place : Place)
    (count : Nat) :
    Place :=
  { place with position := place.position + count }

end Place

/-- The small form of an ASCII code point. -/
def asciiLower (code : Nat) : Nat :=
  if 65 ≤ code ∧ code ≤ 90 then code + 32 else code

/-- The code points that a character stands for under options. -/
def variants
    (options : Options)
    (character : Char) :
    List Nat :=
  let code := character.toNat
  if !options.ignoreCase then
    [code]
  else if options.asciiOnly then
    let small := asciiLower code
    if 97 ≤ small ∧ small ≤ 122 then [small, small - 32] else [code]
  else
    Text.caseVariants code

/-- Whether a character is in a category. -/
def Category.holds
    (category : Category)
    (asciiOnly : Bool)
    (character : Char) :
    Bool :=
  match category with
  | .digit =>
      if asciiOnly then character.isDigit else Text.isDigit character
  | .blank =>
      Text.isBlank character && (!asciiOnly || character == ' ' ||
        (9 ≤ character.toNat && character.toNat ≤ 13))
  | .word =>
      if asciiOnly then
        character == '_' || character.isAlphanum
      else
        Text.isWordCharacter character

/-- Whether a character, standing for its variants, is in an item of a set. -/
def SetItem.holds
    (item : SetItem)
    (options : Options)
    (character : Char)
    (codes : List Nat) :
    Bool :=
  match item with
  | .single code =>
      codes.contains code
  | .range first last =>
      codes.any fun code => first ≤ code && code ≤ last
  | .category kind negated =>
      Category.holds kind options.asciiOnly character != negated

/-- Whether a set holds a character. -/
def setHolds
    (options : Options)
    (negated : Bool)
    (items : List SetItem)
    (character : Char) :
    Bool :=
  let codes := variants options character
  items.any (SetItem.holds · options character codes) != negated

/-- Whether a word starts or ends at a position. -/
def isBoundary
    (text : Array Char)
    (asciiOnly : Bool)
    (position : Nat) :
    Bool :=
  let holds := fun character? : Option Char =>
    match character? with
    | some character =>
        Category.word.holds asciiOnly character
    | none =>
        false
  let before := if position = 0 then none else text[position - 1]?
  holds before != holds text[position]?

/-- Whether a position is the place an anchor names. -/
def Anchor.holds
    (anchor : Anchor)
    (text : Array Char)
    (options : Options)
    (position : Nat) :
    Bool :=
  match anchor with
  | .textStart =>
      position == 0
  | .lineStart =>
      position == 0 || (options.multiline && text[position - 1]? == some '\n')
  | .textEnd =>
      position == text.size
  | .lineEnd =>
      position == text.size ||
        (text[position]? == some '\n' && (options.multiline || position + 1 == text.size))
  | .boundary =>
      !text.isEmpty && isBoundary text options.asciiOnly position
  | .noBoundary =>
      !text.isEmpty && !isBoundary text options.asciiOnly position

/-- Whether two characters are equal under options. -/
def sameCharacter
    (options : Options)
    (left right : Char) :
    Bool :=
  if !options.ignoreCase then
    left == right
  else if options.asciiOnly then
    asciiLower left.toNat == asciiLower right.toNat
  else
    Text.lowerChar left == Text.lowerChar right

/-- Whether what stands at a position repeats what stands between two others. -/
def repeats
    (text : Array Char)
    (options : Options)
    (start finish position : Nat) :
    Bool :=
  (List.range (finish - start)).all fun offset =>
    match text[start + offset]?, text[position + offset]? with
    | some left, some right =>
        sameCharacter options left right
    | _, _ =>
        false

/-- Match one character that passes a test. -/
def one
    (text : Array Char)
    (holds : Char → Bool)
    (place : Place)
    (next : Continuation) :
    Option Place :=
  match text[place.position]? with
  | some character =>
      if holds character then next (place.advance 1) else none
  | none =>
      none

/-- Match a body a number of times. -/
def exactly (body : Place → Continuation → Option Place) :
    (count : Nat) → Place → Continuation → Option Place
  | 0, place, next =>
      next place
  | count + 1, place, next =>
      body place fun after => exactly body count after next

/-- Whether another iteration may start: one is left, and the last one has moved on. -/
def mayIterate
    (left? last? : Option Nat)
    (position : Nat) :
    Bool :=
  left? != some 0 && last? != some position

/-- Match a body as often as possible, then ever less often. -/
def greedily (body : Place → Continuation → Option Place) :
    (budget : Nat) → (left? last? : Option Nat) → Place → Continuation → Option Place
  | 0, _, _, place, next =>
      next place
  | budget + 1, left?, last?, place, next =>
      let further :=
        if mayIterate left? last? place.position then
          body place fun after =>
            greedily body budget (left?.map (· - 1)) (some place.position) after next
        else
          none
      further.orElse fun _ => next place

/-- Match a body as rarely as possible, then ever more often. -/
def lazily (body : Place → Continuation → Option Place) :
    (budget : Nat) → (left? last? : Option Nat) → Place → Continuation → Option Place
  | 0, _, _, place, next =>
      next place
  | budget + 1, left?, last?, place, next =>
      (next place).orElse fun _ =>
        if mayIterate left? last? place.position then
          body place fun after =>
            lazily body budget (left?.map (· - 1)) (some place.position) after next
        else
          none

/-- Match a body a number of times, keeping the first way of each iteration. -/
def exactlyOnce (body : Place → Continuation → Option Place) :
    (count : Nat) → Place → Option Place
  | 0, place =>
      some place
  | count + 1, place =>
      (body place some).bind (exactlyOnce body count)

/-- Match a body as often as possible, keeping the first way of each iteration. -/
def possessively (body : Place → Continuation → Option Place) :
    (budget : Nat) → (left? last? : Option Nat) → Place → Place
  | 0, _, _, place =>
      place
  | budget + 1, left?, last?, place =>
      if mayIterate left? last? place.position then
        match body place some with
        | some after =>
            possessively body budget (left?.map (· - 1)) (some place.position) after
        | none =>
            place
      else
        place

/-- Match a repetition of a body. -/
def iterate
    (size least : Nat)
    (most? : Option Nat)
    (greed : Greed)
    (body : Place → Continuation → Option Place)
    (place : Place)
    (next : Continuation) :
    Option Place :=
  let left? := most?.map (· - least)
  match greed with
  | .greedy =>
      exactly body least place fun after =>
        greedily body (size - after.position + 2) left? none after next
  | .lazy =>
      exactly body least place fun after =>
        lazily body (size - after.position + 2) left? none after next
  | .possessive =>
      match exactlyOnce body least place with
      | some after =>
          next (possessively body (size - after.position + 2) left? none after)
      | none =>
          none

mutual

/-- Match one part. -/
def Node.run (text : Array Char) (options : Options) : Node → Place → Continuation → Option Place
  | .character code, place, next =>
      one text (fun character => (variants options character).contains code) place next
  | .set negated items, place, next =>
      one text (setHolds options negated items) place next
  | .any, place, next =>
      one text (fun character => options.dotMatchesAll || character != '\n') place next
  | .anchor anchor, place, next =>
      if anchor.holds text options place.position then next place else none
  | .alternatives branches, place, next =>
      runBranches text options branches place next
  | .capture group body, place, next =>
      runSequence text options body (place.mark (2 * group)) fun after =>
        next (after.mark (2 * group + 1))
  | .scoped change body, place, next =>
      runSequence text (options.apply change) body place next
  | .atomic body, place, next =>
      (runSequence text options body place some).bind next
  | .repeated least most? greed body, place, next =>
      iterate text.size least most? greed (runSequence text options body) place next
  | .look behind negated body, place, next =>
      let width := if behind then (sequenceWidth body).least else 0
      let found? :=
        if place.position < width then
          none
        else
          runSequence text options body { place with position := place.position - width } some
      match found? with
      | some found =>
          if negated then none else next { found with position := place.position }
      | none =>
          if negated then next place else none
  | .backreference group _, place, next =>
      match place.group? group with
      | some (start, finish) =>
          if repeats text options start finish place.position then
            next (place.advance (finish - start))
          else
            none
      | none =>
          none
  | .conditional group present absent, place, next =>
      match place.group? group with
      | some _ =>
          runSequence text options present place next
      | none =>
          runSequence text options absent place next

/-- Match parts one after the other. -/
def runSequence (text : Array Char) (options : Options) :
    List Node → Place → Continuation → Option Place
  | [], place, next =>
      next place
  | node :: rest, place, next =>
      node.run text options place fun after => runSequence text options rest after next

/-- Match the first of the alternatives that lets the continuation succeed. -/
def runBranches (text : Array Char) (options : Options) :
    List (List Node) → Place → Continuation → Option Place
  | [], _, _ =>
      none
  | branch :: rest, place, next =>
      (runSequence text options branch place next).orElse fun _ =>
        runBranches text options rest place next

end

end FleetConfig.Pattern
