/-!
# Sorted texts

Texts are put in ascending order by their code points.
-/

namespace FleetConfig.Text

/-- Whether a text may stand before another. -/
def atMost (left right : String) : Bool :=
  !(right < left)

/-- The texts in ascending order. -/
def ascending (texts : List String) : List String :=
  texts.mergeSort atMost

/-- Drop every text that equals the one before it. -/
def dropRepeats : List String → List String
  | [] =>
      []
  | [text] =>
      [text]
  | first :: second :: rest =>
      if first = second then
        dropRepeats (second :: rest)
      else
        first :: dropRepeats (second :: rest)

/-- The different texts in ascending order. -/
def distinctAscending (texts : List String) : List String :=
  dropRepeats (ascending texts)

/-- The first text that also stands further left. -/
def firstRepeated? (seen : List String) : List String → Option String
  | [] =>
      none
  | text :: rest =>
      if seen.contains text then
        some text
      else
        firstRepeated? (text :: seen) rest

end FleetConfig.Text
