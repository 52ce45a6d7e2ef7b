/-! # Contexts

What comes next in a word is decided by its last few letters, the context. A context has a fixed
number of slots, the order; a slot holds the code of a letter, or nothing where the word has not yet
begun. Each context has a row: its slots are the digits of the row, the oldest one first, in a base
that has one digit more than there are letters. The last digit stands for the empty slot, and the
same number, as a column, stands for the end of the word.

* `ContextSpace` — how many letters and how many slots there are.
* `ContextSpace.rowFor`, `ContextSpace.contextFor` — from contexts to rows and back.
-/

namespace Pseudoword

/-- Why something cannot be done with contexts. -/
inductive ContextFault where
  /-- There is no letter. -/
  | noLetters
  /-- There is no slot. -/
  | noSlots
  /-- A code is not that of a letter. -/
  | foreignCode (code : Int) (letters : Nat)
  /-- A context has too few or too many slots. -/
  | wrongLength (order : Nat)
  /-- A row is not that of a context. -/
  | foreignRow (row : Int)
  /-- A letter follows the end of a word. -/
  | letterAfterEnd
  /-- A word ends twice. -/
  | secondEnd
  deriving DecidableEq, Repr

/-- The wording of a fault. -/
def ContextFault.message : ContextFault → String
  | .noLetters => "alphabet_size must be positive"
  | .noSlots => "order must be positive"
  | .foreignCode code letters =>
    "Symbol code " ++ toString code ++ " outside alphabet of size " ++ toString letters
  | .wrongLength order => "Context must have exactly " ++ toString order ++ " slots"
  | .foreignRow row => "Row " ++ toString row ++ " out of range"
  | .letterAfterEnd => "Cannot advance past the end of a word"
  | .secondEnd => "Word already ended"

/-- The contexts over a number of letters, with a number of slots. -/
structure ContextSpace where
  /-- How many letters there are. -/
  letters : Nat
  /-- How many slots a context has. -/
  order : Nat
  /-- There is a letter. -/
  letters_pos : 0 < letters
  /-- There is a slot. -/
  order_pos : 0 < order
  deriving DecidableEq, Repr

namespace ContextSpace

/-- The contexts of the given dimensions, both of which have to be positive. -/
def ofSizes (letters order : Int) : Except ContextFault ContextSpace :=
  if hl : 1 ≤ letters then
    if ho : 1 ≤ order then .ok ⟨letters.toNat, order.toNat, by omega, by omega⟩
    else .error .noSlots
  else .error .noLetters

variable (s : ContextSpace)

/-! ## Dimensions -/

/-- How many digits there are: one for each letter and one for the empty slot. -/
def base : Nat := s.letters + 1

/-- How many contexts there are. -/
def rows : Nat := Nat.pow s.base s.order

/-- How many continuations a context has: each letter, and the end of the word. -/
def columns : Nat := s.base

/-- The digit of an empty slot. -/
def startDigit : Nat := s.letters

/-- The column for the end of the word. -/
def endColumn : Nat := s.letters

/-- The row of the context whose slots are all empty, which is the last one. -/
def startRow : Nat := s.rows - 1

theorem base_pos : 0 < s.base := Nat.succ_pos _

theorem rows_pos : 0 < s.rows := Nat.pow_pos s.base_pos

/-! ## Contexts and rows -/

/-- The digit of a slot. -/
def digit : Option Int → Except ContextFault Nat
  | none => .ok s.startDigit
  | some code =>
    if 0 ≤ code ∧ code < s.letters then .ok code.toNat
    else .error (.foreignCode code s.letters)

/-- Read slots as further digits of a row. -/
def rowFrom (row : Nat) : List (Option Int) → Except ContextFault Nat
  | [] => .ok row
  | slot :: slots =>
    match s.digit slot with
    | .error fault => .error fault
    | .ok digit => rowFrom (row * s.base + digit) slots

/-- The row of a context. -/
def rowFor (context : List (Option Int)) : Except ContextFault Nat :=
  if context.length = s.order then s.rowFrom 0 context
  else .error (.wrongLength s.order)

/-- The slot with a digit. -/
def slot (digit : Nat) : Option Int :=
  if digit = s.startDigit then none else some digit

/-- Put a number of digits of a row before others. -/
def digitsOnto (row : Nat) : Nat → List Nat → List Nat
  | 0, digits => digits
  | count + 1, digits => digitsOnto (row / s.base) count (row % s.base :: digits)

/-- The digits of a row, the oldest slot first. -/
def digits (row : Nat) : List Nat :=
  s.digitsOnto row s.order []

/-- The context with a row. -/
def contextFor (row : Int) : Except ContextFault (List (Option Int)) :=
  if 0 ≤ row ∧ row < s.rows then .ok ((s.digits row.toNat).map s.slot)
  else .error (.foreignRow row)

end ContextSpace
end Pseudoword
