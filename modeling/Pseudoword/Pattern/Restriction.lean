import Pseudoword.Pattern.Engine
import Pseudoword.Pattern.Fault

/-! # Restrictions on patterns

What a text may spell and yet is no pattern that can be matched: a look-behind has to take a fixed
number of characters, which may not be too large, and a flag can forbid repetitions.

* `Node.flaw?` — the first thing in a pattern that is not allowed.
* `Node.hasWideLookBehind` — whether a look-behind takes too many characters.
-/

namespace Pseudoword.Pattern

/-- The most characters that an engine can be told to look behind. -/
def farthest : Nat := 0xFFFFFFFF

mutual

/-- The first thing in a pattern that is not allowed, where a flag may forbid repetitions. What holds
of a group as a whole is looked at before what stands in it. -/
def Node.flaw? (engine : Engine) (noRepeats : Bool) : Node → Option Fault
  | .empty => none
  | .single _ _ => none
  | .anchor _ _ => none
  | .sequence first second => (first.flaw? engine noRepeats).or (second.flaw? engine noRepeats)
  | .choice branches => Node.flawIn? engine noRepeats branches
  | .scoped body => body.flaw? engine noRepeats
  | .capture _ body => body.flaw? engine noRepeats
  | .atomic body => body.flaw? engine noRepeats
  | .lookAhead _ body => body.flaw? engine noRepeats
  | .lookBehind _ width body =>
    if farthest < engine.least width then some .lookBehindTooFar
    else if engine.least width ≠ engine.most width then some .lookBehindWidth
    else body.flaw? engine noRepeats
  | .recall _ _ => none
  | .conditional _ present absent => (present.flaw? engine noRepeats).or (absent.flaw? engine noRepeats)
  | .repeated greed _ _ body =>
    if noRepeats then some (.unsupportedRepeat greed) else body.flaw? engine noRepeats

/-- The first thing in several patterns that is not allowed. -/
def Node.flawIn? (engine : Engine) (noRepeats : Bool) : List Node → Option Fault
  | [] => none
  | branch :: branches => (branch.flaw? engine noRepeats).or (Node.flawIn? engine noRepeats branches)

end

mutual

/-- Whether a look-behind takes too many characters. -/
def Node.hasWideLookBehind (engine : Engine) : Node → Bool
  | .empty => false
  | .single _ _ => false
  | .anchor _ _ => false
  | .sequence first second => first.hasWideLookBehind engine || second.hasWideLookBehind engine
  | .choice branches => Node.hasWideLookBehindIn engine branches
  | .scoped body => body.hasWideLookBehind engine
  | .capture _ body => body.hasWideLookBehind engine
  | .atomic body => body.hasWideLookBehind engine
  | .lookAhead _ body => body.hasWideLookBehind engine
  | .lookBehind _ width body => engine.lookBehindLimit ≤ engine.least width || body.hasWideLookBehind engine
  | .recall _ _ => false
  | .conditional _ present absent => present.hasWideLookBehind engine || absent.hasWideLookBehind engine
  | .repeated _ _ _ body => body.hasWideLookBehind engine

/-- Whether a look-behind in one of several patterns takes too many characters. -/
def Node.hasWideLookBehindIn (engine : Engine) : List Node → Bool
  | [] => false
  | branch :: branches => branch.hasWideLookBehind engine || Node.hasWideLookBehindIn engine branches

end

end Pseudoword.Pattern
