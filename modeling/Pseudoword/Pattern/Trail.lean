/-! # Trails

What an attempt to match leaves behind, whether it succeeds or fails: the marks of the groups, and
the place that it reached last. A failed attempt is taken back only as far as something depends on
it, so its trail can be seen by what is tried after it.

* `Pattern.Trail` — the marks, and the place reached last.
* `Pattern.Outcome`, `Pattern.Continuation` — how an attempt ended, and what is to happen at a place.
* `Trail.mark`, `Trail.group?` — marks, and the text that a group has remembered.
* `Trail.rewind` — taking back the marks of an attempt that failed.
-/

namespace Pseudoword.Pattern

/-- What an attempt to match leaves behind. -/
structure Trail where
  /-- The place that was reached last. -/
  reached : Nat
  /-- The marks of the groups: the start of group `g` at index `2 * g - 2` and its end at
  `2 * g - 1`. -/
  marks : List (Option Nat)
  deriving DecidableEq, Repr

/-- How an attempt to match ended. -/
structure Outcome where
  /-- Whether it succeeded. -/
  matched : Bool
  /-- What it left behind. -/
  trail : Trail
  deriving DecidableEq, Repr

/-- What is to happen at a place, after an attempt with a trail. -/
abbrev Continuation := Nat → Trail → Outcome

namespace Trail

/-- The trail before anything was tried. -/
def start : Trail := ⟨0, []⟩

/-- The trail, once a place has been reached. -/
def reach (trail : Trail) (place : Nat) : Trail :=
  { trail with reached := place }

/-- Leave a mark at a place. Marks that were passed over are unset. -/
def mark (trail : Trail) (slot place : Nat) : Trail :=
  let unset := List.replicate (slot + 1 - trail.marks.length) none
  { trail with marks := (trail.marks ++ unset).set slot (some place) }

/-- The part of the text that a group has remembered, by its start and end. -/
def group? (trail : Trail) (group : Nat) : Option (Nat × Nat) :=
  match trail.marks[2 * group - 2]?, trail.marks[2 * group - 1]? with
  | some (some first), some (some last) => if first ≤ last then some (first, last) else none
  | _, _ => none

/-- The trail after an attempt that failed, with the marks from before it. Inside a repetition all of
them are restored. Elsewhere only marks that are new are dropped, as each mark is left but once. -/
def rewind (trail : Trail) (nested : Bool) (marks : List (Option Nat)) : Trail :=
  { trail with marks := if nested then marks else trail.marks.take marks.length }

/-- Whether the two marks of each group are in order, in a list of marks. -/
def inOrder : List (Option Nat) → Bool
  | some first :: some last :: marks => first ≤ last && inOrder marks
  | _ :: _ :: marks => inOrder marks
  | _ => true

end Trail

namespace Outcome

/-- Success at a place. -/
def success : Continuation :=
  fun place trail => ⟨true, trail.reach place⟩

/-- Failure. -/
def failure (trail : Trail) : Outcome :=
  ⟨false, trail⟩

/-- Try something else after a failure. -/
def orElse (outcome : Outcome) (next : Trail → Outcome) : Outcome :=
  if outcome.matched then outcome else next outcome.trail

end Outcome
end Pseudoword.Pattern
