/-! # Non-negative binary64 numbers

The finite binary64 numbers that are not negative form one ascending sequence, and so does their
encoding: the bit pattern of a number is its place in the sequence, counted from zero. A number is
held here as this rank, which makes its order that of the natural numbers and its value exact.

* `Binary64.rank`, `Binary64.units` — the place of a number and its value in units of `2 ^ (-1074)`.
* `Binary64.ofRatio` — the nearest number to a quotient of two natural numbers, ties to even.
* `Binary64.zero`, `Binary64.one`, `Binary64.infinity` — landmarks.
-/

namespace Pseudoword

/-- A non-negative binary64 number, named by its rank among them. The rank after the last finite
number is infinity's. -/
structure Binary64 where
  /-- How many smaller numbers there are, which is also the bit pattern of the number. -/
  rank : Nat
  deriving DecidableEq, Repr, Inhabited

namespace Binary64

/-- Numbers are ordered by rank. -/
instance : LE Binary64 := ⟨fun x y => x.rank ≤ y.rank⟩

/-- Numbers are ordered by rank. -/
instance : LT Binary64 := ⟨fun x y => x.rank < y.rank⟩

instance (x y : Binary64) : Decidable (x ≤ y) := inferInstanceAs (Decidable (x.rank ≤ y.rank))

instance (x y : Binary64) : Decidable (x < y) := inferInstanceAs (Decidable (x.rank < y.rank))

theorem lt_def {x y : Binary64} : x < y ↔ x.rank < y.rank := Iff.rfl

/-- How many numbers a binade has: the significand has 52 bits after its leading one. -/
def binade : Nat := Nat.pow 2 52

/-- The smallest positive number is one over this. -/
def resolution : Nat := Nat.pow 2 1074

/-- Zero. -/
def zero : Binary64 := ⟨0⟩

/-- One. -/
def one : Binary64 := ⟨1023 * binade⟩

/-- Infinity, which follows the last finite number. -/
def infinity : Binary64 := ⟨2047 * binade⟩

/-- The value of a finite number in units of the smallest positive one. The first two binades are
spaced by one unit, and from there each binade is spaced twice as widely as the one before. -/
def units (x : Binary64) : Nat :=
  if x.rank < binade then x.rank
  else (x.rank % binade + binade) * Nat.pow 2 (x.rank / binade - 1)

/-- The quotient of two numbers rounded to the nearest natural number, a half to the even one. -/
def roundDiv (n d : Nat) : Nat :=
  let q := n / d
  let r := n % d
  if 2 * r < d then q
  else if d < 2 * r then q + 1
  else q + q % 2

/-- The binary64 number nearest to `n / d`, a tie to the one of even rank. The quotient is taken in
units of `2 ^ shift` smallest numbers, where `shift` is the least that leaves fewer than 54 bits. A
quotient that rounds up to 54 bits needs no correction, because its rank is then that of the first
number of the next binade. -/
def ofRatio (n d : Nat) : Binary64 :=
  let scaled := n * resolution
  let shift := (scaled / d).log2 - 52
  ⟨shift * binade + roundDiv scaled (d * Nat.pow 2 shift)⟩

@[simp] theorem ofRatio_zero (d : Nat) : ofRatio 0 d = zero := by
  have h : roundDiv 0 (d * Nat.pow 2 0) = 0 := by
    rcases Nat.eq_zero_or_pos d with rfl | hd <;> simp [roundDiv]
  simp [ofRatio, zero] at h ⊢
  exact h

end Binary64
end Pseudoword
