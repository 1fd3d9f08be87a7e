/-!
# Ranges of code points

A class of characters is given by an ascending list of closed ranges of code
points.  `inRanges` looks a code point up; because the list ascends, the search
ends at the first range that starts above it.
-/

namespace FleetConfig.Text

/-- Whether a code point lies in one of the ascending closed ranges. -/
def inRanges : List (Nat × Nat) → Nat → Bool
  | [], _ =>
      false
  | (first, last) :: rest, code =>
      if code < first then
        false
      else if code ≤ last then
        true
      else
        inRanges rest code

end FleetConfig.Text
