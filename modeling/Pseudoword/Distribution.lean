import Pseudoword.Binary64
import Pseudoword.Random.Draw

/-! # Distributions

How likely each column of a row is, told by cumulative levels: the level of a column is the
probability of that column or one before it. Levels are exact quotients of counts, rounded once, so
that the last one is exactly one and a column that was never counted adds nothing.

* `Distribution.ofCounts` — the levels that counts give.
* `Distribution.pick` — the column that a draw selects: the first one whose level reaches the draw,
  among those that add something.
-/

namespace Pseudoword

/-- Cumulative levels, by column. -/
structure Distribution where
  /-- The level of each column. -/
  levels : Array Binary64
  deriving DecidableEq, Repr

/-- The sums of the beginnings of a list, each added to a first number. -/
def prefixSums (sum : Nat) : List Nat → List Nat
  | [] => []
  | n :: ns => (sum + n) :: prefixSums (sum + n) ns

@[simp] theorem length_prefixSums (sum : Nat) (ns : List Nat) :
    (prefixSums sum ns).length = ns.length := by
  induction ns generalizing sum with
  | nil => rfl
  | cons n ns ih => simp [prefixSums, ih]

namespace Distribution

/-! ## Levels -/

/-- The sum of counts. -/
def total (counts : List Nat) : Nat :=
  counts.foldr (· + ·) 0

/-- The levels that counts give: the sum up to a column over the sum of all. -/
def ofCounts (counts : List Nat) : Distribution :=
  ⟨((prefixSums 0 counts).map (Binary64.ofRatio · (total counts))).toArray⟩

/-- How many columns there are. -/
def size (d : Distribution) : Nat :=
  d.levels.size

/-- The last column. -/
def last (d : Distribution) : Nat :=
  d.size - 1

/-- The level of a column. -/
def level (d : Distribution) (column : Nat) : Binary64 :=
  d.levels.getD column Binary64.zero

/-- Whether nothing can be picked, because nothing was counted. -/
def isDead (d : Distribution) : Bool :=
  d.level d.last == Binary64.zero

@[simp] theorem size_ofCounts (counts : List Nat) : (ofCounts counts).size = counts.length := by
  simp [ofCounts, size]

/-! ## Picking -/

/-- The first column from `low` on, and before `high`, whose level the draw does not exceed, or
`high`; halving the range, which is right because levels do not decrease. -/
def search (d : Distribution) (u : Draw) (low high : Nat) : Nat :=
  if low < high then
    let middle := (low + high) / 2
    if u.exceeds (d.level middle) then d.search u (middle + 1) high else d.search u low middle
  else low
termination_by high - low

/-- The first column of the run of equal levels that a column ends. -/
def runStart (d : Distribution) : Nat → Nat
  | 0 => 0
  | column + 1 =>
    if d.level (column + 1) = d.level column then d.runStart column else column + 1

/-- The first column from a given one on whose level is not zero, or the last column. -/
def skipZeros (d : Distribution) (column : Nat) : Nat :=
  if column < d.last ∧ d.level column = Binary64.zero then d.skipZeros (column + 1) else column
termination_by d.last - column

/-- The column that a draw selects. A draw above all levels selects the last column that adds
something, and one that is not above zero the first. -/
def pick (d : Distribution) (u : Draw) : Nat :=
  let column := d.search u 0 d.size
  -- a draw above the last level falls back on the first column with that level
  d.skipZeros (if d.last < column then d.runStart d.last else column)

end Distribution
end Pseudoword
