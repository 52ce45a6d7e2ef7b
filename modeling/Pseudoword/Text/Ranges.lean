/-! # Sets of code points

Character properties are tables of ranges of code points, kept in ascending order so that a search
may stop early.

* `Text.Ranges.contains` — membership.
-/

namespace Pseudoword.Text

/-- A set of code points, as its maximal ranges (first and last included) in ascending order. -/
abbrev Ranges := List (Nat × Nat)

/-- Whether a code point lies in one of the ranges. -/
def Ranges.contains : Ranges → Nat → Bool
  | [], _ => false
  | (first, last) :: ranges, n =>
    if n < first then false else decide (n ≤ last) || Ranges.contains ranges n

end Pseudoword.Text
