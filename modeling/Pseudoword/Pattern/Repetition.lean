import Pseudoword.Pattern.Engine

/-! # Repetitions

The ways of repeating. A repetition of single characters counts how far they go on and then tries
its counts one by one. A repetition of anything else makes one round after another; beyond its least
count it may match the empty text only once in the same place, so that each further round gets on in
the text and the number of rounds is bounded.

A possessive repetition ends with the first round that fails. It goes on from where the round before
ended, unless the engine leaves it at the place which the failed round reached last.

* `Pattern.Run` — a repetition of single characters at a place of a text.
* `Run.greedy`, `Run.lazy`, `Run.possessive` — matching it.
* `Rounds.greedy`, `Rounds.lazy`, `Rounds.possessive` — matching a repetition of anything else.
-/

namespace Pseudoword.Pattern

/-! ## Single characters -/

/-- A repetition of single characters at a place of a text. -/
structure Run where
  /-- The flags in force. -/
  mode : Mode
  /-- The test of each character. -/
  test : Test
  /-- The fewest times. -/
  least : Nat
  /-- The most times. -/
  most : Option Nat
  /-- Where it starts. -/
  first : Nat
  /-- The text from there on. -/
  rest : List Char

namespace Run

variable (r : Run)

/-- How many characters pass the test, up to a limit. -/
def count (limit : Option Nat) : Nat :=
  let candidates := match limit with
    | some limit => r.rest.take limit
    | none => r.rest
  (candidates.takeWhile (r.test.accepts r.mode)).length

/-- The place that has been reached once a number of characters are counted. Counting looks ahead,
unless it has to take one step after another. -/
def counted (first number : Nat) : Nat :=
  if r.test.isFolded r.mode then first + number else first

/-- Go on after the least count and some more characters, or else after fewer. Counts after which
another character follows than what follows the repetition are left out. -/
def shorter (nested : Bool) (next : Front) (marks : List (Option Nat)) (k : Continuation) :
    Nat → Trail → Outcome
  | more, trail =>
    let number := r.least + more
    let here :=
      if next.excludesLetter r.rest[number]? then Outcome.failure trail
      else
        (k (r.first + number) (trail.reach (r.first + number))).orElse fun trail =>
          .failure (trail.rewind nested marks)
    here.orElse fun trail =>
      match more with
      | 0 => .failure trail
      | more + 1 => shorter nested next marks k more trail

/-- Go on after as many characters as possible. -/
def greedy (nested : Bool) (next : Front) (k : Continuation) (trail : Trail) : Outcome :=
  if r.rest.length < r.least then .failure trail
  else
    let number := r.count r.most
    let trail := trail.reach (r.counted r.first number)
    if number < r.least then .failure trail
    else r.shorter nested next trail.marks k (number - r.least) trail

/-- Go on at a place, or else after more characters, of which some number are allowed. -/
def longer (nested : Bool) (marks : List (Option Nat)) (k : Continuation) (place : Nat)
    (allowed : Option Nat) : List Char → Trail → Outcome
  | rest, trail =>
    (k place (trail.reach place)).orElse fun trail =>
      let trail := (trail.rewind nested marks).reach place
      match rest with
      | [] => .failure trail
      | c :: rest =>
        if !r.test.accepts r.mode c then .failure trail
        else if allowed = some 0 then .failure (trail.reach (r.counted place 1))
        else longer nested marks k (place + 1) (allowed.map Nat.pred) rest trail

/-- Go on after as few characters as possible. -/
def lazy (nested : Bool) (k : Continuation) (trail : Trail) : Outcome :=
  if r.rest.length < r.least then .failure trail
  else
    let number := r.count (some r.least)
    let trail := trail.reach (r.counted r.first number)
    if number < r.least then .failure trail
    else
      r.longer nested trail.marks k (r.first + r.least) (r.most.map (· - r.least))
        (r.rest.drop r.least) trail

/-- Go on after as many characters as possible, and nowhere else. -/
def possessive (k : Continuation) (trail : Trail) : Outcome :=
  if r.rest.length < r.least then .failure trail
  else
    let number := r.count r.most
    let trail := trail.reach (r.counted r.first number)
    if number < r.least then .failure trail else k (r.first + number) trail

end Run

/-! ## Rounds -/

/-- One round of a repetition, and what is to happen after it. -/
abbrev Round := Nat → Trail → Continuation → Outcome

/-- Whether another round is allowed beyond the least count: the upper limit is not reached, and the
last such round did not start here. -/
def mayRepeat (most : Option Nat) (count : Nat) (last : Option Nat) (place : Nat) : Bool :=
  most.all (count < ·) && last != some place

namespace Rounds

variable (engine : Engine) (round : Round) (least : Nat) (most : Option Nat)

/-- Make as many rounds as possible, then go on; with fewer rounds if that fails. -/
def greedy (k : Continuation) : Nat → Nat → Option Nat → Continuation
  | 0, _, _, _, trail => .failure trail
  | fuel + 1, count, last, place, trail =>
    let trail := trail.reach place
    if count < least then
      (round place trail (greedy k fuel (count + 1) last)).orElse fun trail =>
        .failure (trail.reach place)
    else
      let onward (trail : Trail) : Outcome :=
        (k place (trail.reach place)).orElse fun trail => .failure (trail.reach place)
      if mayRepeat most count last place then
        (round place trail (greedy k fuel (count + 1) (some place))).orElse fun failed =>
          onward { failed with marks := trail.marks }
      else onward trail

/-- Go on after as few rounds as possible; with more rounds if that fails. -/
def lazy (nested : Bool) (k : Continuation) : Nat → Nat → Option Nat → Continuation
  | 0, _, _, _, trail => .failure trail
  | fuel + 1, count, last, place, trail =>
    let trail := trail.reach place
    let another (last : Option Nat) (trail : Trail) : Outcome :=
      (round place (trail.reach place) (lazy nested k fuel (count + 1) last)).orElse fun trail =>
        .failure (trail.reach place)
    if count < least then another last trail
    else
      (k place trail).orElse fun failed =>
        let failed := failed.rewind nested trail.marks
        if mayRepeat most count last place then another (some place) failed
        else .failure (failed.reach place)

/-- Make rounds, each in the first way that succeeds, until one fails or the limit is reached. The
trail tells where that was. -/
def further : Nat → Nat → Option Nat → Trail → Trail
  | 0, _, _, trail => trail
  | fuel + 1, count, last, trail =>
    if mayRepeat most count last trail.reached then
      let outcome := round trail.reached trail .success
      if outcome.matched then further fuel (count + 1) (some trail.reached) outcome.trail
      else engine.afterFailure trail outcome.trail
    else trail

/-- Make the least number of rounds, each in the first way that succeeds. -/
def required : Nat → Trail → Outcome
  | 0, trail => ⟨true, trail⟩
  | count + 1, trail =>
    let outcome := round trail.reached trail .success
    if outcome.matched then required count outcome.trail else outcome

/-- Make as many rounds as possible without going back, then go on. -/
def possessive (fuel : Nat) (k : Continuation) (place : Nat) (trail : Trail) : Outcome :=
  let outcome := required round least (trail.reach place)
  if outcome.matched then
    let trail := further engine round most fuel least none outcome.trail
    k trail.reached trail
  else .failure (outcome.trail.reach place)

end Rounds
end Pseudoword.Pattern
