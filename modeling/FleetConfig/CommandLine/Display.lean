import FleetConfig.CommandLine.Markup

/-!
# Display

What a command shows on the screen is made of texts, panels and tables, all of
them marked up.  Their lines are what there is to read: blanks run together,
empty lines are left out, and the cells of a table have bars between them.
-/

namespace FleetConfig

/-- A part of the display. -/
inductive Block where
  | text (text : String)
  | panel (title text : String)
  | table (title : String) (header : List String) (rows : List (List String))
  deriving Repr, DecidableEq

namespace Display

/-- The words of a line with one blank between them. -/
def runTogether (line : String) : String :=
  let words := line.toList.splitBy fun left right => Text.isBlank left == Text.isBlank right
  " ".intercalate
    ((words.filter fun word => !word.all Text.isBlank).map String.ofList)

/-- The lines of a marked-up text. -/
def linesOf? (text : String) : Option (List String) :=
  (Markup.plain? text).map fun plain => (plain.splitOn "\n").map runTogether

/-- The lines of a row, of which the longest cell decides how many there are. -/
def rowLines (cells : List (List String)) : List String :=
  let height := (cells.map List.length).foldl max 0
  (List.range height).map fun line =>
    " | ".intercalate (cells.map fun cell => cell[line]?.getD "")

/-- The lines of a row of marked-up cells. -/
def rowLines? (cells : List String) : Option (List String) :=
  (cells.mapM linesOf?).map rowLines

/-- The lines of a part of the display. -/
def blockLines? : Block → Option (List String)
  | .text text =>
      linesOf? text
  | .panel title text => do
      return (← linesOf? title) ++ (← linesOf? text)
  | .table title header rows => do
      let top ← linesOf? title
      let lines ← (header :: rows).mapM rowLines?
      return top ++ lines.flatten

/-- Leave out empty lines. -/
def withoutEmpty (lines : List String) : List String :=
  lines.filter fun line => !line.isEmpty

/-- The lines of a display without the empty ones; none if a mark closes a style that is not open. -/
def lines? (blocks : List Block) : Option (List String) :=
  (blocks.mapM blockLines?).map fun lines => withoutEmpty lines.flatten

/-- The lines that are shown before a part of a display that cannot be shown. -/
def linesBeforeRefusal : List Block → List String
  | [] =>
      []
  | block :: rest =>
      match blockLines? block with
      | some lines =>
          withoutEmpty lines ++ linesBeforeRefusal rest
      | none =>
          []

end Display

end FleetConfig
