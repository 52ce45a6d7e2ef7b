/-! # Capacity

How large an index may be, and how many cells a table may have. The former is settled once and for all;
the latter depends on the machine.

* `isIndex`, `indexMisfit` — whether an integer may be an index, and what is said of one that may not.
* `SizeFault`, `sizeFault?`, `sizeFault?_eq_none_iff` — why a table cannot have given dimensions, and when
  it can.
-/

namespace Pseudoword

/-- The least integer that is too large for an index. -/
def indexLimit : Int := 0x8000000000000000

/-- Whether an integer fits into a machine word with a sign, as indices and sizes have to. -/
def isIndex (n : Int) : Bool :=
  -indexLimit ≤ n && !(indexLimit ≤ n)

/-- What is said of an integer that is no index. -/
def indexMisfit : String :=
  "cannot fit 'int' into an index-sized integer"

/-- Why a table cannot have given dimensions. -/
inductive SizeFault where
  /-- The number of cells is no index. -/
  | misfit
  /-- There are more cells than fit into memory. -/
  | noMemory
  deriving DecidableEq, Repr

/-- The wording of a fault. There is none for a lack of memory. -/
def SizeFault.message : SizeFault → String
  | .misfit => indexMisfit
  | .noMemory => ""

/-- Why a table cannot have given dimensions, if it cannot, where a number of cells fit into memory. The
product of the dimensions decides, so that a table with one negative dimension takes no room. -/
def sizeFault? (capacity rows columns : Int) : Option SizeFault :=
  if !isIndex (rows * columns) then some .misfit
  else if capacity < rows * columns then some .noMemory
  else none

/-- A table can have dimensions whose product is an index and fits into memory. -/
theorem sizeFault?_eq_none_iff {capacity rows columns : Int} :
    sizeFault? capacity rows columns = none
      ↔ isIndex (rows * columns) = true ∧ rows * columns ≤ capacity := by
  unfold sizeFault?
  cases isIndex (rows * columns) with
  | false => simp
  | true =>
    by_cases hroom : capacity < rows * columns
    · simp [hroom, Int.not_le.mpr hroom]
    · simp [hroom, Int.not_lt.mp hroom]

end Pseudoword
