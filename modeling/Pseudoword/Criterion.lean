import Pseudoword.Pattern.Matcher
import Pseudoword.Pattern.Reader

/-! # Criteria

What a word may be asked to satisfy before it is put to use.

* `Criterion` — a pattern, a range of lengths, or several criteria at once.
* `Criterion.accepts` — whether a word satisfies a criterion, as an engine for patterns has it.
* `Criterion.ofPattern`, `Criterion.ofLengths` — criteria from a text and from two bounds.
-/

namespace Pseudoword

/-- What a word may be asked to satisfy. -/
inductive Criterion where
  /-- The whole word matches a pattern, which was read from a text. -/
  | pattern (source : String) (sized : Pattern.Sized)
  /-- The word has no fewer and no more letters than two bounds. -/
  | lengths (shortest longest : Int)
  /-- The word satisfies all of several criteria. -/
  | all (criteria : List Criterion)

/-- Why there is no criterion. -/
inductive CriterionFault where
  /-- A text is no pattern. -/
  | badPattern (source : String) (error : PatternError)
  /-- No length lies between two bounds. -/
  | emptyRange (shortest longest : Int)

/-- The wording of a fault. -/
def CriterionFault.message : CriterionFault → String
  | .badPattern source error => error.message source
  | .emptyRange shortest longest =>
    "Empty length range " ++ toString shortest ++ ".." ++ toString longest

namespace Criterion

/-- The criterion that the whole word matches the pattern that a text spells. -/
def ofPattern (engine : Pattern.Engine) (source : String) : Except CriterionFault Criterion :=
  match Pattern.read? engine source with
  | .error error => .error (.badPattern source error)
  | .ok sized => .ok (.pattern source sized)

/-- The criterion that a word has no fewer and no more letters than two bounds. -/
def ofLengths (shortest longest : Int) : Except CriterionFault Criterion :=
  if longest < shortest then .error (.emptyRange shortest longest)
  else .ok (.lengths shortest longest)

mutual

/-- Whether a word satisfies a criterion. -/
def accepts (engine : Pattern.Engine) (word : String) : Criterion → Except Pattern.MatchFault Bool
  | .pattern _ sized => sized.matchesAll engine word
  | .lengths shortest longest =>
    .ok (decide (shortest ≤ word.length) && decide ((word.length : Int) ≤ longest))
  | .all criteria => acceptsAll engine word criteria

/-- Whether a word satisfies each of several criteria. Those after one that it does not satisfy are
not looked at. -/
def acceptsAll (engine : Pattern.Engine) (word : String) :
    List Criterion → Except Pattern.MatchFault Bool
  | [] => .ok true
  | criterion :: criteria =>
    match accepts engine word criterion with
    | .error fault => .error fault
    | .ok false => .ok false
    | .ok true => acceptsAll engine word criteria

end

/-- The text that a criterion was read from, if it is a pattern. -/
def source? : Criterion → Option String
  | .pattern source _ => some source
  | _ => none

end Criterion
end Pseudoword
