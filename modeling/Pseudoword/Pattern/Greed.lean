/-! # Greed

How a repetition chooses its count.

* `Pattern.Greed` — the three ways.
* `Greed.operator` — the names under which messages know them.
-/

namespace Pseudoword.Pattern

/-- How a repetition chooses its count. -/
inductive Greed where
  /-- As many as possible first. -/
  | greedy
  /-- As few as possible first. -/
  | lazy
  /-- As many as possible, without going back. -/
  | possessive
  deriving DecidableEq, Repr

/-- The name of a kind of repetition in messages. -/
def Greed.operator : Greed → String
  | .greedy => "MAX_REPEAT"
  | .lazy => "MIN_REPEAT"
  | .possessive => "POSSESSIVE_REPEAT"

end Pseudoword.Pattern
