import Pseudoword.Generator.Walk
import Pseudoword.Pattern.Fault

/-! # Sampling words

Words are sampled by trying walk after walk until one spells a word that was not learned and that
meets a criterion. A budget may limit the number of attempts.

* `Generator.Found`, `Generator.SampleFault` — a word, and why there is none.
* `Generator.Judge` — what tells of a word whether it is accepted.
* `Generator.attempt` — try walk after walk.
* `Generator.generate`, `Generator.generateMany` — one word, and several from one run of draws.
* `Generator.foundRecord` — the report of a word.
-/

namespace Pseudoword.Generator

/-- A word that was sampled. -/
structure Found where
  /-- The word. -/
  word : String
  /-- How many walks it took. -/
  attempts : Nat
  /-- Whether that is worth a warning. -/
  slow : Bool
  deriving DecidableEq, Repr

/-- Why no word was sampled. -/
inductive SampleFault where
  /-- The budget allows no attempt at all. -/
  | noAttempts
  /-- The budget is used up. -/
  | attemptsExhausted (attempts : Nat)
  /-- A walk came to a dead row. -/
  | deadState (row : Nat)
  /-- There was no draw left. -/
  | outOfDraws
  /-- There is a word, but attempts cannot be compared with the given patience. -/
  | incomparable (patience : Setting)
  /-- It cannot be told whether a word is accepted. -/
  | unjudged (fault : Pattern.MatchFault)
  /-- A check inside the library failed. -/
  | internal (fault : InternalFault)
  deriving Repr

/-- The wording of a fault. -/
def SampleFault.message : SampleFault → String
  | .noAttempts => "max_attempts must be positive"
  | .attemptsExhausted attempts => (Error.attemptsExhausted attempts).message
  | .deadState row => (Error.deadState row).message
  | .outOfDraws => "draws used"
  | .incomparable patience =>
    "'>' not supported between instances of 'int' and '" ++ patience.kind ++ "'"
  | .unjudged fault => fault.message
  | .internal fault => fault.message

/-- The outcome of sampling, and the draws left over. -/
structure Sample where
  /-- The word, or why there is none. -/
  result : Except SampleFault Found
  /-- The draws that were not used. -/
  rest : List Draw

/-- What tells of a word whether it is accepted. -/
abbrev Judge := String → Except Pattern.MatchFault Bool

variable (g : Generator)

/-- The outcome of having found a word. -/
def found (word : String) (attempts : Nat) : Except SampleFault Found :=
  match Configuration.isSlow? attempts g.patience with
  | none => .error (.incomparable g.patience)
  | some slow => .ok ⟨word, attempts, slow⟩

/-- Try walk after walk, after a number of attempts that failed, until one spells a word that was not
learned and is accepted. -/
def attempt (accepts : Judge) (budget : Option Nat) (attempts : Nat) (draws : List Draw) :
    Sample :=
  if budget.any (· ≤ attempts) then ⟨.error (.attemptsExhausted attempts), draws⟩
  else
    let walk := g.walk draws
    match h : walk.ending with
    | .outOfDraws => ⟨.error .outOfDraws, walk.rest⟩
    | .dead row => ⟨.error (.deadState row), walk.rest⟩
    | .broken fault => ⟨.error (.internal fault), walk.rest⟩
    | .complete =>
      have := g.length_rest_walk_lt h
      match g.wordOf walk with
      | .error fault => ⟨.error (.internal (.code fault)), walk.rest⟩
      | .ok word =>
        -- a word that was learned is passed over without asking whether it is accepted
        if g.knows word then attempt accepts budget (attempts + 1) walk.rest
        else
          match accepts word with
          | .error fault => ⟨.error (.unjudged fault), walk.rest⟩
          | .ok true => ⟨g.found word (attempts + 1), walk.rest⟩
          | .ok false => attempt accepts budget (attempts + 1) walk.rest
termination_by draws.length
decreasing_by
  · exact this
  · exact this

/-- Sample a word that was not learned and is accepted, in as many attempts as a budget allows. -/
def generate (accepts : Judge) (budget : Option Int) (draws : List Draw) : Sample :=
  if budget.any (· < 1) then ⟨.error .noAttempts, draws⟩
  else g.attempt accepts (budget.map Int.toNat) 0 draws

/-- Several outcomes of sampling. -/
structure Samples where
  /-- The words, in order. -/
  found : List Found
  /-- Why there are not more, if there are too few. -/
  fault : Option SampleFault
  /-- The draws that were not used. -/
  rest : List Draw

/-- Sample a number of words, each from the draws that the one before left over. -/
def generateMany (accepts : Judge) (budget : Option Int) :
    Nat → List Draw → Samples
  | 0, draws => ⟨[], none, draws⟩
  | count + 1, draws =>
    let sample := g.generate accepts budget draws
    match sample.result with
    | .error fault => ⟨[], some fault, sample.rest⟩
    | .ok found =>
      let more := generateMany accepts budget count sample.rest
      { more with found := found :: more.found }

/-- The report of a word. -/
def foundRecord (found : Found) : LogRecord :=
  let lead := "Generated " ++ Text.quoted found.word
  let count := toString found.attempts ++ " attempts"
  if found.slow then ⟨.warning, "generator", lead ++ " only after " ++ count⟩
  else ⟨.debug, "generator", lead ++ " after " ++ count⟩

end Pseudoword.Generator
