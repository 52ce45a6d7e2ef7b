import Pseudoword.Context

/-! # Windows

A window shows the context at some place of a word while the word is being spelled. It starts out
empty, each letter moves into its newest slot and pushes the oldest one out, and so does the end of
the word, after which nothing follows. The row of the context is kept up to date by arithmetic alone.

* `Window` — the digits of the slots, their row, and whether the word has ended.
* `Window.shift` — move a digit in.
* `Window.push`, `Window.finish` — the next letter and the end of the word, if they may come.
-/

namespace Pseudoword

/-- The context at some place of a word. -/
structure Window (s : ContextSpace) where
  /-- The digits of the slots, the oldest first. -/
  slots : List Nat
  /-- The row of the context. -/
  row : Nat
  /-- Whether the word has ended. -/
  ended : Bool
  deriving DecidableEq, Repr

namespace Window

/-- The window before the first letter. -/
def start (s : ContextSpace) : Window s :=
  ⟨List.replicate s.order s.startDigit, s.startRow, false⟩

variable {s : ContextSpace}

/-- Move a digit into the newest slot. The remainder drops the digit of the oldest one. -/
def shift (w : Window s) (digit : Nat) : Window s :=
  { w with slots := w.slots.tail ++ [digit], row := (w.row * s.base + digit) % s.rows }

/-- Move the code of the next letter in. -/
def push (w : Window s) (code : Int) : Except ContextFault (Window s) :=
  if 0 ≤ code ∧ code < s.letters then
    if w.ended then .error .letterAfterEnd else .ok (w.shift code.toNat)
  else .error (.foreignCode code s.letters)

/-- Move the end of the word in. -/
def finish (w : Window s) : Except ContextFault (Window s) :=
  if w.ended then .error .secondEnd else .ok { w.shift s.endColumn with ended := true }

@[simp] theorem row_start : (start s).row = s.startRow := rfl

@[simp] theorem slots_start : (start s).slots = List.replicate s.order s.startDigit := rfl

@[simp] theorem row_shift (w : Window s) (digit : Nat) :
    (w.shift digit).row = (w.row * s.base + digit) % s.rows := rfl

@[simp] theorem slots_shift (w : Window s) (digit : Nat) :
    (w.shift digit).slots = w.slots.tail ++ [digit] := rfl

@[simp] theorem ended_shift (w : Window s) (digit : Nat) : (w.shift digit).ended = w.ended := rfl

/-- A code of a letter may come as long as the word has not ended. -/
theorem push_of_lt (w : Window s) {code : Nat} (h : code < s.letters) (open_ : w.ended = false) :
    w.push code = .ok (w.shift code) := by
  simp [push, h, open_]

end Window
end Pseudoword
