import Pseudoword.Pattern.Fault
import Pseudoword.Pattern.Repetition

/-! # Matching

A pattern matches a text by trying its possibilities in order and going back to the last choice when
the rest of the pattern fails. Matching is written with continuations: a pattern gets a place in the
text, the trail of what was tried before, and what is to happen after it.

* `Node.run` — matching from a place, with a continuation.
* `Sized.matchesAll` — whether a pattern matches a whole text.
-/

namespace Pseudoword.Pattern

/-- Whether a place satisfies a condition. In the empty text there is no boundary of words, and no
inside either. -/
def Anchor.holds (mode : Mode) (input : Array Char) (place : Nat) : Anchor → Bool
  | .textStart => place == 0
  | .textEnd => place == input.size
  | .lineStart => place == 0 || (mode.multiline && input[place - 1]? == some '\n')
  | .lineEnd =>
    place == input.size
      || (input[place]? == some '\n' && (mode.multiline || place + 1 == input.size))
  | .boundary => !input.isEmpty && before != after
  | .inside => !input.isEmpty && before == after
where
  /-- Whether a word character stands before the place. -/
  before : Bool := 0 < place && (input[place - 1]?).any (Category.word.contains mode.ascii)
  /-- Whether a word character stands after the place. -/
  after : Bool := (input[place]?).any (Category.word.contains mode.ascii)

/-- Whether two characters are equal under the flags. -/
def sameChar (mode : Mode) (c d : Char) : Bool :=
  if mode.ignoreCase then mode.lower c == mode.lower d else c == d

/-- Whether the text goes on with a part of itself. -/
def goesOnWith (mode : Mode) (input : Array Char) (place first last : Nat) : Bool :=
  (List.range (last - first)).all fun i =>
    match input[place + i]?, input[first + i]? with
    | some c, some d => sameChar mode c d
    | _, _ => false

/-- Look from a place at whether a pattern matches, and go on where the look was taken from. -/
def look (round : Round) (nested negated : Bool) (start : Nat) (k : Continuation)
    (place : Nat) (trail : Trail) : Outcome :=
  let outcome := round start (trail.reach start) .success
  match negated, outcome.matched with
  | false, true => k place outcome.trail
  | true, false => k place (outcome.trail.rewind nested trail.marks)
  | _, _ => .failure outcome.trail

mutual

/-- Match a pattern from a place, and go on. It is told whether the pattern stands in a repetition of
a group and what can be told of what follows it. The fuel of a repetition allows for its least count
and for one further round at each place of the text. -/
def Node.run (engine : Engine) (input : Array Char) :
    Node → Bool → Front → Nat → Trail → Continuation → Outcome
  | .empty, _, _, place, trail, k => k place trail
  | .single mode test, _, _, place, trail, k =>
    match input[place]? with
    | some c => if test.accepts mode c then k (place + 1) trail else .failure trail
    | none => .failure trail
  | .anchor mode condition, _, _, place, trail, k =>
    if condition.holds mode input place then k place trail else .failure trail
  | .sequence first second, nested, next, place, trail, k =>
    first.run engine input nested (second.front.followedBy next) place trail fun place trail =>
      second.run engine input nested next place trail k
  | .choice branches, nested, _, place, trail, k =>
    Node.runBranches engine input branches nested trail.marks place trail k
  | .scoped body, nested, next, place, trail, k => body.run engine input nested next place trail k
  | .capture group body, nested, _, place, trail, k =>
    body.run engine input nested .hidden place (trail.mark (2 * group - 2) place) fun place trail =>
      k place (trail.mark (2 * group - 1) place)
  | .atomic body, nested, _, place, trail, k =>
    let outcome := body.run engine input nested .hidden place (trail.reach place) .success
    if outcome.matched then k outcome.trail.reached outcome.trail
    else .failure (outcome.trail.reach place)
  | .lookAhead negated body, nested, _, place, trail, k =>
    look (body.run engine input nested .hidden) nested negated place k place trail
  | .lookBehind negated width body, nested, _, place, trail, k =>
    if place < width.least then if negated then k place trail else .failure trail
    else look (body.run engine input nested .hidden) nested negated (place - width.least) k place trail
  | .recall mode group, _, _, place, trail, k =>
    match trail.group? group with
    | some (first, last) =>
      if goesOnWith mode input place first last then k (place + (last - first)) trail
      else .failure trail
    | none => .failure trail
  | .conditional group present absent, nested, next, place, trail, k =>
    if (trail.group? group).isSome then
      let next := match absent with
        | .empty => next
        | _ => .hidden
      present.run engine input nested next place trail k
    else absent.run engine input nested next place trail k
  | .repeated greed least most body, nested, next, place, trail, k =>
    match body.single? with
    | some (mode, test) =>
      let r : Run := ⟨mode, test, least, most, place, input.toList.drop place⟩
      match greed with
      | .greedy => r.greedy nested next k trail
      | .lazy => r.lazy nested k trail
      | .possessive => r.possessive k trail
    | none =>
      let fuel := least + (input.size - place) + 3
      match greed with
      | .greedy => Rounds.greedy (body.run engine input true .hidden) least most k fuel 0 none place trail
      | .lazy =>
        Rounds.lazy (body.run engine input true .hidden) least most nested k fuel 0 none place trail
      | .possessive =>
        Rounds.possessive engine (body.run engine input nested .hidden) least most fuel k place trail

/-- Match the first of several patterns that leads to success. Patterns that the next character
excludes are passed over. -/
def Node.runBranches (engine : Engine) (input : Array Char) :
    List Node → Bool → List (Option Nat) → Nat → Trail → Continuation → Outcome
  | [], _, _, _, trail, _ => .failure trail
  | branch :: branches, nested, marks, place, trail, k =>
    if branch.front.excludes input[place]? then
      Node.runBranches engine input branches nested marks place trail k
    else
      (branch.run engine input nested .hidden place (trail.reach place) k).orElse fun trail =>
        Node.runBranches engine input branches nested marks place (trail.rewind nested marks) k

end

/-- Whether a pattern matches a text from its start to its end. A text that is shorter than the
pattern is not tried. -/
def Sized.matchesAll (engine : Engine) (pattern : Sized) (s : String) : Except MatchFault Bool :=
  let input := s.toList.toArray
  if input.size < pattern.width.least then .ok false
  else
    let outcome := pattern.node.run engine input false .hidden 0 .start fun place trail =>
      ⟨place == input.size, trail⟩
    if !outcome.matched then .ok false
    else if Trail.inOrder outcome.trail.marks then .ok true
    else .error .crossedMarks

end Pseudoword.Pattern
