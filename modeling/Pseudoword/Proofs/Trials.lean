import Mathlib
import Pseudoword.Generator.Sampling

/-! # Trials

Of a walk, an attempt sees no more than the word that it spells, or why there is none, and the draws that
it leaves over. So generators whose walks look alike in this sense, and which know the same words, sample
alike. How much of a fault is looked at is left open, as some of them name a row.

* **`Generator.trial draws`** — what an attempt sees of a walk, with `Generator.attempt_eq`.
* **`Sample.seenBy see`** — an outcome, as far as a view of faults tells it.
* **`Generator.TriesLike see g g'`** — generators whose trials look alike.
* **`Generator.TriesLike.generate`** — these sample alike, by induction on the draws left over. -/

namespace Pseudoword.Generator

/-! ## (1) What an attempt sees -/

/-- **What an attempt sees of a walk.** -/
structure Trial where
  /-- The word that the walk spells, or why there is none. -/
  word : Except SampleFault String
  /-- The draws that were not used. -/
  rest : List Draw

/-- **The trial that draws make**: the walk from the start, with its word read. -/
def trial (g : Generator) (draws : List Draw) : Trial :=
  let walk := g.walk draws
  match walk.ending with
  | .outOfDraws => ⟨.error .outOfDraws, walk.rest⟩
  | .dead row => ⟨.error (.deadState row), walk.rest⟩
  | .broken fault => ⟨.error (.internal fault), walk.rest⟩
  | .complete => ⟨(g.wordOf walk).mapError fun fault => .internal (.code fault), walk.rest⟩

/-- An outcome, as far as a view of faults tells it. -/
def Sample.seenBy (see : SampleFault → SampleFault) (sample : Sample) : Sample :=
  { sample with result := sample.result.mapError see }

@[simp] theorem Sample.rest_seenBy (see : SampleFault → SampleFault) (sample : Sample) :
    (sample.seenBy see).rest = sample.rest := rfl

/-- Outcomes look alike if their results do, and as many draws are left over. -/
theorem Sample.seenBy_congr {see : SampleFault → SampleFault} {sample sample' : Sample}
    (hresult : sample'.result.mapError see = sample.result.mapError see)
    (hrest : sample'.rest = sample.rest) : sample'.seenBy see = sample.seenBy see := by
  rw [seenBy, seenBy, hresult, hrest]

variable {g g' : Generator} {see : SampleFault → SampleFault} {draws : List Draw}

/-- A trial leaves over what its walk does. -/
theorem rest_trial (g : Generator) (draws : List Draw) :
    (g.trial draws).rest = (g.walk draws).rest := by
  rw [trial]
  split <;> rfl

/-- A trial that has a word used up a draw. -/
theorem length_rest_trial_lt {word : String} (h : (g.trial draws).word = .ok word) :
    (g.trial draws).rest.length < draws.length := by
  rw [rest_trial]
  rw [trial] at h
  split at h
  · cases h
  · cases h
  · cases h
  · next hcomplete => exact g.length_rest_walk_lt hcomplete

/-- **An attempt, told by its trial.** -/
theorem attempt_eq (g : Generator) (accepts : Judge) (budget : Option Nat) (attempts : Nat)
    (draws : List Draw) :
    g.attempt accepts budget attempts draws =
      if budget.any (· ≤ attempts) then ⟨.error (.attemptsExhausted attempts), draws⟩
      else match (g.trial draws).word with
        | .error fault => ⟨.error fault, (g.trial draws).rest⟩
        | .ok word =>
          if g.knows word then g.attempt accepts budget (attempts + 1) (g.trial draws).rest
          else match accepts word with
            | .error fault => ⟨.error (.unjudged fault), (g.trial draws).rest⟩
            | .ok true => ⟨g.found word (attempts + 1), (g.trial draws).rest⟩
            | .ok false => g.attempt accepts budget (attempts + 1) (g.trial draws).rest := by
  conv_lhs => rw [attempt]
  refine if_congr Iff.rfl rfl ?_
  dsimp only
  split
  · next hending => simp only [trial, hending]
  · next hending => simp only [trial, hending]
  · next hending => simp only [trial, hending]
  · next hending =>
    simp only [trial, hending]
    cases g.wordOf (g.walk draws) with
    | error fault => rfl
    | ok word => rfl

/-! ## (2) Generators that try alike -/

/-- **Generators that try alike**, as far as a view of faults tells: from the same draws they come to
the same word, and leave over the same draws; and they know the same words. -/
structure TriesLike (see : SampleFault → SampleFault) (g g' : Generator) : Prop where
  /-- The words are the same, and the faults look the same. -/
  word_eq : ∀ draws, (g'.trial draws).word.mapError see = (g.trial draws).word.mapError see
  /-- The draws left over are the same. -/
  rest_eq : ∀ draws, (g'.trial draws).rest = (g.trial draws).rest
  /-- The words known are the same. -/
  knows_eq : ∀ word, g'.knows word = g.knows word
  /-- The patience is the same. -/
  patience_eq : g'.patience = g.patience

/-- A word is found in the same way. -/
theorem TriesLike.found_eq (h : TriesLike see g g') (word : String) (attempts : Nat) :
    g'.found word attempts = g.found word attempts := by
  rw [Generator.found, Generator.found, h.patience_eq]

/-- **Generators that try alike attempt alike.** -/
theorem TriesLike.attempt (h : TriesLike see g g') (accepts : Judge) (budget : Option Nat)
    (attempts : Nat) (draws : List Draw) :
    (g'.attempt accepts budget attempts draws).seenBy see
      = (g.attempt accepts budget attempts draws).seenBy see := by
  -- the draws that are left over get fewer with each attempt
  induction hlength : draws.length using Nat.strong_induction_on generalizing attempts draws with
  | h length ih =>
      rw [g'.attempt_eq, g.attempt_eq, h.rest_eq]
      by_cases hbudget : budget.any (· ≤ attempts)
      · rw [if_pos hbudget, if_pos hbudget]
      · rw [if_neg hbudget, if_neg hbudget]
        have hword := h.word_eq draws
        cases hown : (g.trial draws).word with
        | error fault =>
            cases hother : (g'.trial draws).word with
            | error fault' =>
                rw [hown, hother] at hword
                exact Sample.seenBy_congr (congrArg Except.error (Except.error.inj hword)) rfl
            | ok word' =>
                rw [hown, hother] at hword
                cases hword
        | ok word =>
            have hlt := hlength ▸ length_rest_trial_lt hown
            have hnext := ih _ hlt (attempts + 1) (g.trial draws).rest rfl
            cases hother : (g'.trial draws).word with
            | error fault' =>
                rw [hown, hother] at hword
                cases hword
            | ok word' =>
                rw [hown, hother] at hword
                obtain rfl := Except.ok.inj hword
                -- both see the same word, and ask the same questions of it
                simp only [h.knows_eq, h.found_eq]
                split
                · exact hnext
                · split
                  · rfl
                  · rfl
                  · exact hnext

/-- **Generators that try alike sample alike.** -/
theorem TriesLike.generate (h : TriesLike see g g') (accepts : Judge) (budget : Option Int)
    (draws : List Draw) :
    (g'.generate accepts budget draws).seenBy see
      = (g.generate accepts budget draws).seenBy see := by
  rw [Generator.generate, Generator.generate]
  split
  · rfl
  · exact h.attempt accepts _ 0 draws

end Pseudoword.Generator
