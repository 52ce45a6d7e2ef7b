import Mathlib
import Pseudoword.Proofs.Observations

/-! # Windows after any moves

A window may be taken back to the start, a letter may move in, and the end of the word may; a move that
must not come next is refused, and changes nothing. Whatever the moves were, the window holds the last
of what was let in since it stood at the start, behind as many empty slots as it takes to fill it, and
its row is the number with these digits.

* **`ContextSpace.value_eq_sum`** — the row of digits, as a sum of powers of the base.
* **`Window.Move`**, **`Window.run`** — what may be asked of a window, and what becomes of it.
* **`Window.digitsIn moves`** — the digits that were let in since the window stood at the start.
* **`Window.Holds w digits`** — the state of a window is the one of these digits; `Window.holds_run`.
* **`Window.slots_row_run`** — slots and row after any moves. -/

namespace Pseudoword

namespace ContextSpace

variable (s : ContextSpace)

/-! ## (1) Rows and contexts of digits -/

/-- **The row of digits as a sum**: each digit counts for as many powers of the base as there are digits
behind it. -/
theorem value_eq_sum (digits : List Nat) :
    s.value digits
      = ∑ i ∈ Finset.range digits.length, digits.getD i 0 * s.base ^ (digits.length - 1 - i) := by
  induction digits with
  | nil => rfl
  | cons digit digits ih =>
      rw [value_cons, ih, List.length_cons, Finset.sum_range_succ', Nat.add_comm, Nat.mul_comm]
      congr 1
      apply Finset.sum_congr rfl
      intro i _
      rw [List.getD_cons_succ]
      congr 2
      omega

/-- Reading a slot as a digit gives the digit back that the slot stands for. -/
@[simp] theorem digitOf_slot (digit : Nat) : s.digitOf (s.slot digit) = digit := by
  unfold slot
  split
  · next h => exact h.symm
  · rfl

/-- Digits are found again in the slots that they stand for. -/
theorem map_digitOf_map_slot (digits : List Nat) : (digits.map s.slot).map s.digitOf = digits := by
  rw [List.map_map]
  exact List.map_id'' s.digitOf_slot digits

/-- The slots that digits stand for make up a context. -/
theorem isContext_map_slot {digits : List Nat} (hlen : digits.length = s.order)
    (h : ∀ d ∈ digits, d < s.base) : s.IsContext (digits.map s.slot) where
  length_eq := (List.length_map _).trans hlen
  code_mem := fun code hcode => by
    obtain ⟨digit, hdigit, hslot⟩ := List.mem_map.mp hcode
    have hlt : digit < s.letters + 1 := h digit hdigit
    unfold slot startDigit at hslot
    split at hslot
    · cases hslot
    · cases hslot
      omega

end ContextSpace

namespace Window

variable {s : ContextSpace}

/-! ## (2) Windows in order -/

/-- **The context of a window in order can be read off its row.** -/
theorem Sound.contextFor_row {w : Window s} (hw : w.Sound) :
    s.contextFor w.row = .ok (w.slots.map s.slot) := by
  have hrow : (0 : Int) ≤ w.row ∧ (w.row : Int) < s.rows :=
    ⟨Int.natCast_nonneg _, by exact_mod_cast hw.row_lt⟩
  rw [ContextSpace.contextFor, if_pos hrow, Int.toNat_natCast, hw.row_eq,
    s.digits_value hw.length_slots hw.slots_lt]

/-- **The row of a window in order is that of its context.** -/
theorem Sound.rowFor_slots {w : Window s} (hw : w.Sound) :
    s.rowFor (w.slots.map s.slot) = .ok w.row := by
  rw [s.rowFor_eq (s.isContext_map_slot hw.length_slots hw.slots_lt), s.map_digitOf_map_slot,
    hw.row_eq]

/-! ## (3) Moves -/

/-- **What may be asked of a window.** -/
inductive Move where
  /-- Go back to the start. -/
  | reset
  /-- Move the code of a letter in. -/
  | push (code : Int)
  /-- Move the end of the word in. -/
  | finish
  deriving DecidableEq, Repr

/-- The window that a move leads to, or why the move is refused. -/
def move? (w : Window s) : Move → Except ContextFault (Window s)
  | .reset => .ok (start s)
  | .push code => w.push code
  | .finish => w.finish

/-- The window after a move, which stays as it is if the move is refused. -/
def perform (w : Window s) (move : Move) : Window s :=
  match w.move? move with
  | .ok next => next
  | .error _ => w

/-- **The window after several moves**, any of which may be refused. -/
def run (w : Window s) (moves : List Move) : Window s :=
  moves.foldl perform w

/-- The digits that were let in after a move that was not refused, by those before it. -/
def Move.onto (s : ContextSpace) (digits : List Nat) : Move → List Nat
  | .reset => []
  | .push code => digits ++ [code.toNat]
  | .finish => digits ++ [s.endColumn]

/-- The digits that were let in after moves, by those before them. -/
def digitsFrom (w : Window s) (digits : List Nat) : List Move → List Nat
  | [] => digits
  | move :: moves =>
    match w.move? move with
    | .ok next => next.digitsFrom (move.onto s digits) moves
    | .error _ => w.digitsFrom digits moves

/-- **The digits let in by moves** from the start, since the last move back to it. Moves that are refused
add none. -/
def digitsIn (s : ContextSpace) (moves : List Move) : List Nat :=
  (start s).digitsFrom [] moves

theorem run_append (w : Window s) (moves later : List Move) :
    w.run (moves ++ later) = (w.run moves).run later :=
  List.foldl_append

/-- **When a letter is refused**: if it is none, or comes after the end. -/
theorem push_eq_error_iff (w : Window s) (code : Int) :
    (∃ fault, w.push code = .error fault) ↔ ¬ (0 ≤ code ∧ code < s.letters) ∨ w.ended = true := by
  by_cases hcode : 0 ≤ code ∧ code < s.letters
  · cases hended : w.ended <;> simp [push, hcode, hended]
  · simp [push, hcode]

/-- **When the end of the word is refused**: if it came before. -/
theorem finish_eq_error_iff (w : Window s) :
    (∃ fault, w.finish = .error fault) ↔ w.ended = true := by
  cases hended : w.ended <;> simp [finish, hended]

/-- What a letter does that is let in. -/
theorem push_eq_ok {w next : Window s} {code : Int} (h : w.push code = .ok next) :
    (0 ≤ code ∧ code < s.letters) ∧ w.ended = false ∧ next = w.shift code.toNat := by
  unfold push at h
  split at h
  · next hcode =>
    split at h
    · cases h
    · next hopen =>
      cases h
      exact ⟨hcode, Bool.eq_false_of_not_eq_true hopen, rfl⟩
  · cases h

/-- What the end of a word does that is let in. -/
theorem finish_eq_ok {w next : Window s} (h : w.finish = .ok next) :
    w.ended = false ∧ next = { w.shift s.endColumn with ended := true } := by
  unfold finish at h
  split at h
  · cases h
  · next hopen =>
    cases h
    exact ⟨Bool.eq_false_of_not_eq_true hopen, rfl⟩

/-! ## (4) What a window holds -/

/-- **A window that holds digits**: its slots and its row are those after moving the digits in from the
start, and the word has ended if the end is among them. -/
structure Holds (w : Window s) (digits : List Nat) : Prop where
  /-- The slots are those after the digits. -/
  slots_eq : w.slots = ((start s).after digits).slots
  /-- The row is that after the digits. -/
  row_eq : w.row = ((start s).after digits).row
  /-- What was moved in are digits. -/
  digits_lt : ∀ d ∈ digits, d < s.base
  /-- The word has ended exactly if its end was moved in. -/
  ended_iff : w.ended = true ↔ s.endColumn ∈ digits

/-- The window at the start holds nothing. -/
theorem Holds.start : (start s).Holds [] where
  slots_eq := rfl
  row_eq := rfl
  digits_lt := fun _ hd => nomatch hd
  ended_iff := by simp [Window.start]

/-- A window that holds digits is in order. -/
theorem Holds.sound {w : Window s} {digits : List Nat} (h : w.Holds digits) : w.Sound := by
  have hafter := Sound.start.after h.digits_lt
  constructor
  · rw [h.slots_eq, hafter.length_slots]
  · rw [h.slots_eq]
    exact hafter.slots_lt
  · rw [h.slots_eq, h.row_eq, hafter.row_eq]

/-- One more digit is moved in after the others. -/
theorem after_concat (w : Window s) (digits : List Nat) (digit : Nat) :
    w.after (digits ++ [digit]) = (w.after digits).shift digit := by
  rw [after, List.foldl_append, List.foldl_cons, List.foldl_nil, after]

/-- **One more digit**, and whether it is the end of the word. -/
theorem Holds.shift {w : Window s} {digits : List Nat} (h : w.Holds digits) (hopen : w.ended = false)
    {digit : Nat} (hdigit : digit < s.base) {ended : Bool}
    (hended : ended = true ↔ digit = s.endColumn) :
    ({ w.shift digit with ended := ended } : Window s).Holds (digits ++ [digit]) where
  slots_eq := by
    show (w.shift digit).slots = _
    rw [after_concat, slots_shift, slots_shift, h.slots_eq]
  row_eq := by
    show (w.shift digit).row = _
    rw [after_concat, row_shift, row_shift, h.row_eq]
  digits_lt := fun d hd => by
    rcases List.mem_append.mp hd with hd | hd
    · exact h.digits_lt d hd
    · exact List.mem_singleton.mp hd ▸ hdigit
  ended_iff := by
    have hnot : s.endColumn ∉ digits := fun hmem => by
      rw [h.ended_iff.mpr hmem] at hopen
      cases hopen
    show ended = true ↔ _
    rw [hended, List.mem_append, List.mem_singleton]
    exact ⟨fun heq => .inr heq.symm, fun hmem => (hmem.resolve_left hnot).symm⟩

/-- **One move** takes a window that holds digits to one that holds those after the move. -/
theorem Holds.move {w next : Window s} {digits : List Nat} (h : w.Holds digits) {move : Move}
    (hmove : w.move? move = .ok next) : next.Holds (move.onto s digits) := by
  cases move with
  | reset =>
      cases hmove
      exact .start
  | push code =>
      obtain ⟨⟨hle, hlt⟩, hopen, rfl⟩ := push_eq_ok hmove
      have hcode : code.toNat < s.letters := by omega
      have hended : w.ended = true ↔ code.toNat = s.endColumn := by
        rw [hopen, ContextSpace.endColumn]
        exact ⟨nofun, fun heq => absurd heq hcode.ne⟩
      exact h.shift hopen (s.lt_base_of_lt hcode) hended
  | finish =>
      obtain ⟨hopen, rfl⟩ := finish_eq_ok hmove
      exact h.shift hopen s.startDigit_lt_base (iff_of_true rfl rfl)

/-- **Windows hold what was let in**, after any moves from a window that holds digits. -/
theorem Holds.run {w : Window s} {digits : List Nat} (h : w.Holds digits) (moves : List Move) :
    (w.run moves).Holds (w.digitsFrom digits moves) := by
  induction moves generalizing w digits with
  | nil => exact h
  | cons move moves ih =>
      rw [Window.run, List.foldl_cons, ← Window.run, digitsFrom, perform]
      cases hmove : w.move? move with
      | ok next => exact ih (h.move hmove)
      | error fault => exact ih h

/-- **Every window holds what was let in** since it stood at the start. -/
theorem holds_run (s : ContextSpace) (moves : List Move) :
    ((start s).run moves).Holds (digitsIn s moves) :=
  Holds.start.run moves

/-- **The slots are the last ones** of as many empty slots as the order says and the digits let in. -/
theorem Holds.slots_eq_rtake {w : Window s} {digits : List Nat} (h : w.Holds digits) :
    w.slots = (List.replicate s.order s.startDigit ++ digits).rtake s.order := by
  rw [h.slots_eq, slots_after Sound.start.length_slots, slots_start, List.rtake]
  congr 1
  simp

/-- **Windows with the same row hold the same last digits**, and the other way round. -/
theorem Holds.row_eq_iff {w w' : Window s} {digits digits' : List Nat} (h : w.Holds digits)
    (h' : w'.Holds digits') :
    w.row = w'.row ↔ (List.replicate s.order s.startDigit ++ digits).rtake s.order
      = (List.replicate s.order s.startDigit ++ digits').rtake s.order := by
  rw [← h.slots_eq_rtake, ← h'.slots_eq_rtake]
  constructor
  · exact h.sound.slots_eq_of_row_eq h'.sound
  · intro hslots
    rw [h.sound.row_eq, h'.sound.row_eq, hslots]

/-! ## (5) Letters after a start -/

/-- Letters are all let in, one after the other, as long as the word has not ended. -/
theorem digitsFrom_push {w : Window s} (hopen : w.ended = false) {codes : List Nat}
    (h : ∀ code ∈ codes, code < s.letters) (digits : List Nat) :
    w.digitsFrom digits (codes.map fun code : Nat => .push code) = digits ++ codes := by
  induction codes generalizing w digits with
  | nil => rw [List.map_nil, digitsFrom, List.append_nil]
  | cons code codes ih =>
      have hpush := w.push_of_lt (h code List.mem_cons_self) hopen
      have hcodes : ∀ code' ∈ codes, code' < s.letters := fun code' hcode' =>
        h code' (List.mem_cons_of_mem _ hcode')
      rw [List.map_cons, digitsFrom, move?, hpush, List.append_cons]
      exact ih (w := w.shift code) hopen hcodes (digits ++ [code])

/-- **Letters after a move back to the start** are what the window holds, whatever came before. -/
theorem holds_run_reset (s : ContextSpace) (moves : List Move) {codes : List Nat}
    (h : ∀ code ∈ codes, code < s.letters) :
    ((start s).run (moves ++ .reset :: codes.map fun code : Nat => .push code)).Holds codes := by
  have hcodes := Holds.start.run (s := s) (codes.map fun code : Nat => .push code)
  rw [digitsFrom_push rfl h, List.nil_append] at hcodes
  rwa [run_append, Window.run, List.foldl_cons]

/-! ## (6) Every run of moves -/

/-- **Slots and row after any moves**, refused ones included. There are as many slots as the order says;
they are the last digits let in since the window stood at the start, behind empty slots; the row is the
number that they spell, and context and row are found again from each other. A letter is refused if it is
none or comes after the end, the end if it comes again, and a move that is refused changes nothing. So
letters after a move back to the start lead to the same row exactly if the last of them are the same,
behind empty slots. -/
theorem slots_row_run (s : ContextSpace) (moves : List Move) :
    let w := (start s).run moves
    let digits := digitsIn s moves
    w.slots.length = s.order ∧ (∀ d ∈ w.slots, d ≤ s.letters)
      ∧ w.slots = (List.replicate s.order s.letters ++ digits).rtake s.order
      ∧ w.row
        = ∑ i ∈ Finset.range s.order, w.slots.getD i 0 * (s.letters + 1) ^ (s.order - 1 - i)
      ∧ w.row < (s.letters + 1) ^ s.order
      ∧ s.contextFor w.row = .ok (w.slots.map fun digit => if digit = s.letters then none else some digit)
      ∧ s.rowFor (w.slots.map fun digit => if digit = s.letters then none else some digit) = .ok w.row
      ∧ (∀ code, (∃ fault, w.push code = .error fault)
        ↔ ¬ (0 ≤ code ∧ code < s.letters) ∨ w.ended = true)
      ∧ ((∃ fault, w.finish = .error fault) ↔ w.ended = true)
      ∧ (w.ended = true ↔ s.letters ∈ digits)
      ∧ (∀ move fault, w.move? move = .error fault → (start s).run (moves ++ [move]) = w)
      ∧ ∀ (moves' : List Move) (codes codes' : List Nat), (∀ code ∈ codes, code < s.letters) →
        (∀ code ∈ codes', code < s.letters) →
        (((start s).run (moves ++ .reset :: codes.map fun code : Nat => .push code)).row
            = ((start s).run (moves' ++ .reset :: codes'.map fun code : Nat => .push code)).row
          ↔ (List.replicate s.order s.letters ++ codes).rtake s.order
            = (List.replicate s.order s.letters ++ codes').rtake s.order) := by
  intro w digits
  have h : w.Holds digits := holds_run s moves
  have hrow : w.row
      = ∑ i ∈ Finset.range s.order, w.slots.getD i 0 * (s.letters + 1) ^ (s.order - 1 - i) := by
    rw [h.sound.row_eq, s.value_eq_sum, h.sound.length_slots]
    rfl
  refine ⟨h.sound.length_slots, fun d hd => Nat.le_of_lt_succ (h.sound.slots_lt d hd),
    h.slots_eq_rtake, hrow, h.sound.row_lt, h.sound.contextFor_row, h.sound.rowFor_slots,
    w.push_eq_error_iff, w.finish_eq_error_iff, h.ended_iff, fun move fault hmove => ?_,
    fun moves' codes codes' hcodes hcodes' => ?_⟩
  · rw [run_append]
    show w.perform move = w
    rw [perform, hmove]
  · exact (holds_run_reset s moves hcodes).row_eq_iff (holds_run_reset s moves' hcodes')

/-- With two letters and two slots, the moves that are refused leave the letter and the end of the word
in; and of the letters 1, 0, 1 and 0, 1, let in from the start, the last two are the same. -/
theorem slots_row_mixedMoves :
    let s : ContextSpace := ⟨2, 2, by decide, by decide⟩
    let moves : List Move := [.finish, .reset, .push 1, .push (-1), .finish, .push 0, .finish]
    digitsIn s moves = [1, 2] ∧ ((start s).run moves).slots = [1, 2]
      ∧ ((start s).run moves).row = 5
      ∧ ((start s).run (moves ++ .reset :: [1, 0, 1].map fun code : Nat => .push code)).row
        = ((start s).run ([] ++ .reset :: [0, 1].map fun code : Nat => .push code)).row := by
  intro s moves
  have hrun := slots_row_run s moves
  obtain ⟨-, -, hslots, hrow, -, -, -, -, -, -, -, hsame⟩ := hrun
  have hdigits : digitsIn s moves = [1, 2] := by decide
  rw [hdigits] at hslots
  have hslots : ((start s).run moves).slots = [1, 2] := hslots
  rw [hslots] at hrow
  exact ⟨hdigits, hslots, hrow, (hsame [] [1, 0, 1] [0, 1] (by decide) (by decide)).mpr (by decide)⟩

end Window
end Pseudoword
