import Pseudoword.Binary64

/-! # Draws

A source of randomness yields binary64 numbers, usually between zero and one. Sampling compares a
draw with tabulated probabilities and asks nothing else of it, so that a draw is held as what such a
comparison can tell: it may be no number at all, below zero, or a number of the non-negative scale.

* `Draw.ofBits` — the draw with a given bit pattern.
* `Draw.exceeds` — whether a draw is above a probability.
-/

namespace Pseudoword

/-- A number drawn from a random source. -/
inductive Draw where
  /-- No number. It is neither above nor below any probability. -/
  | notANumber
  /-- A number below zero. -/
  | negative
  /-- A number of the non-negative scale, infinity included. -/
  | level (size : Binary64)
  deriving DecidableEq, Repr

namespace Draw

/-- The draw with the given bit pattern of 64 bits. The first bit is the sign, and both zeros are
the same number. -/
def ofBits (bits : Nat) : Draw :=
  let size : Binary64 := ⟨bits % Nat.pow 2 63⟩
  if Binary64.infinity < size then .notANumber
  else if Nat.pow 2 63 ≤ bits ∧ size ≠ Binary64.zero then .negative
  else .level size

/-- Whether the draw is greater than a probability. -/
def exceeds : Draw → Binary64 → Bool
  | .notANumber, _ => false
  | .negative, _ => false
  | .level size, probability => decide (probability < size)

@[simp] theorem notANumber_exceeds (p : Binary64) : notANumber.exceeds p = false := rfl

@[simp] theorem negative_exceeds (p : Binary64) : negative.exceeds p = false := rfl

@[simp] theorem level_exceeds {x p : Binary64} : (level x).exceeds p = true ↔ p < x := by
  simp [exceeds]

end Draw
end Pseudoword
