import Mathlib.Data.List.Induction
import Mathlib.Data.Nat.Digits.Defs
import Pseudoword.Context.Window

/-! # Windows and rows

A window holds the same information twice: as the digits of its slots and as a row, which is kept up
to date by arithmetic alone. This file shows that the two agree after any letters, and that a row
determines the slots, so that two windows never share a row by accident.

* **`ContextSpace.value digits`** — the row with the given digits, the oldest first.
* **`ContextSpace.value_injective`** — digits are determined by their row.
* **`ContextSpace.digits_value`**, **`ContextSpace.value_digits`** — rows and their digits, back and forth.
* **`ContextSpace.value_shift`** — the remainder of the shifted row drops exactly the oldest digit.
* **`Window.Sound w`** — the slots of a window are digits, as many as the order, and the row is theirs.
* **`Window.after w codes`** — the window after letters, with `Window.slots_after`. -/

namespace Pseudoword

namespace ContextSpace

variable (s : ContextSpace)

theorem rows_eq_pow : s.rows = s.base ^ s.order := rfl

theorem one_lt_base : 1 < s.base := Nat.succ_lt_succ s.letters_pos

theorem startDigit_lt_base : s.startDigit < s.base := Nat.lt_succ_self _

theorem lt_base_of_lt {code : Nat} (h : code < s.letters) : code < s.base :=
  Nat.lt_succ_of_lt h

/-! ## (1) The row of digits -/

/-- **The row with the given digits**, the oldest and most significant first. -/
def value (digits : List Nat) : Nat :=
  Nat.ofDigits s.base digits.reverse

@[simp] theorem value_nil : s.value [] = 0 := rfl

/-- A further digit is the least significant one. -/
theorem value_concat (digits : List Nat) (digit : Nat) :
    s.value (digits ++ [digit]) = s.value digits * s.base + digit := by
  rw [value, value, List.reverse_append, List.reverse_singleton, List.singleton_append,
    Nat.ofDigits_cons]
  ring

/-- The oldest digit is the most significant one. -/
theorem value_cons (digit : Nat) (digits : List Nat) :
    s.value (digit :: digits) = s.base ^ digits.length * digit + s.value digits := by
  rw [value, value, Nat.ofDigits_reverse_cons, Nat.add_comm]

/-- Digits below the base give a number below a power of it. -/
theorem value_lt_pow {digits : List Nat} (h : ∀ d ∈ digits, d < s.base) :
    s.value digits < s.base ^ digits.length := by
  have := Nat.ofDigits_lt_base_pow_length (l := digits.reverse) s.one_lt_base
    (by simpa using h)
  simpa [value] using this

/-- The row of a full list of digits is a row of the table. -/
theorem value_lt_rows {digits : List Nat} (hlen : digits.length = s.order)
    (h : ∀ d ∈ digits, d < s.base) : s.value digits < s.rows := by
  have := s.value_lt_pow h
  rwa [hlen] at this

/-- **A row determines its digits.** -/
theorem value_injective {digits digits' : List Nat} (hlen : digits.length = digits'.length)
    (h : ∀ d ∈ digits, d < s.base) (h' : ∀ d ∈ digits', d < s.base)
    (heq : s.value digits = s.value digits') : digits = digits' := by
  have := Nat.ofDigits_inj_of_len_eq s.one_lt_base (by simpa using hlen) (by simpa using h)
    (by simpa using h') heq
  exact List.reverse_inj.mp this

/-- Reading digits off a row puts them before those that were read already. -/
theorem digitsOnto_value {digits : List Nat} (h : ∀ d ∈ digits, d < s.base) (later : List Nat) :
    s.digitsOnto (s.value digits) digits.length later = digits ++ later := by
  induction digits using List.reverseRecOn generalizing later with
  | nil => rfl
  | append_singleton digits digit ih =>
      have hdigit : digit < s.base := h digit (by simp)
      have hdigits := ih (fun d hd => h d (List.mem_append_left _ hd)) (digit :: later)
      rw [List.length_append, List.length_singleton, digitsOnto, value_concat, Nat.mul_comm,
        Nat.mul_add_div s.base_pos, Nat.div_eq_of_lt hdigit, Nat.add_zero, Nat.mul_add_mod,
        Nat.mod_eq_of_lt hdigit, hdigits, List.append_assoc, List.singleton_append]

/-- **The digits of a row** are those that give it. -/
theorem digits_value {digits : List Nat} (hlen : digits.length = s.order)
    (h : ∀ d ∈ digits, d < s.base) : s.digits (s.value digits) = digits := by
  rw [ContextSpace.digits, ← hlen, s.digitsOnto_value h, List.append_nil]

/-- As many digits are read off a row as are asked for. -/
theorem length_digitsOnto (row count : Nat) (later : List Nat) :
    (s.digitsOnto row count later).length = count + later.length := by
  induction count generalizing row later with
  | zero => rw [digitsOnto, Nat.zero_add]
  | succ count ih => rw [digitsOnto, ih, List.length_cons, Nat.add_right_comm, Nat.add_assoc]

/-- What is read off a row are digits. -/
theorem digitsOnto_lt (row count : Nat) {later : List Nat} (h : ∀ d ∈ later, d < s.base) :
    ∀ d ∈ s.digitsOnto row count later, d < s.base := by
  induction count generalizing row later with
  | zero => exact h
  | succ count ih =>
      refine ih _ fun d hd => ?_
      rcases List.mem_cons.mp hd with rfl | hd
      · exact Nat.mod_lt _ s.base_pos
      · exact h d hd

@[simp] theorem length_digits (row : Nat) : (s.digits row).length = s.order :=
  s.length_digitsOnto row s.order []

theorem digits_lt (row : Nat) : ∀ d ∈ s.digits row, d < s.base :=
  s.digitsOnto_lt row s.order fun _ hd => nomatch hd

/-- The digits that are read off a row give the row, as far as they go. -/
theorem value_digitsOnto (row count : Nat) (later : List Nat) :
    s.value (s.digitsOnto row count later)
      = row % s.base ^ count * s.base ^ later.length + s.value later := by
  induction count generalizing row later with
  | zero => rw [digitsOnto, pow_zero, Nat.mod_one, Nat.zero_mul, Nat.zero_add]
  | succ count ih =>
      rw [digitsOnto, ih, value_cons, List.length_cons, pow_succ' s.base count, Nat.mod_mul]
      ring

/-- **The row of its digits is the row itself**, if it is one of the table. -/
theorem value_digits {row : Nat} (h : row < s.rows) : s.value (s.digits row) = row := by
  rw [ContextSpace.digits, value_digitsOnto, List.length_nil, pow_zero, Nat.mul_one, value_nil,
    Nat.add_zero, ← rows_eq_pow, Nat.mod_eq_of_lt h]

/-- **The remainder drops the oldest digit**: `(row · base + digit) mod rows` is the row of the other
digits and the new one. -/
theorem value_shift {digits : List Nat} {digit : Nat} (hlen : digits.length = s.order)
    (h : ∀ d ∈ digits, d < s.base) (hdigit : digit < s.base) :
    (s.value digits * s.base + digit) % s.rows = s.value (digits.tail ++ [digit]) := by
  cases digits with
  | nil => exact absurd hlen.symm (Nat.ne_of_gt s.order_pos)
  | cons oldest digits =>
      have hlen' : (digits ++ [digit]).length = s.order := by simpa using hlen
      have hnew : ∀ d ∈ digits ++ [digit], d < s.base := by
        intro d hd
        rcases List.mem_append.mp hd with hd | hd
        · exact h d (List.mem_cons_of_mem _ hd)
        · exact List.mem_singleton.mp hd ▸ hdigit
      rw [← value_concat, List.cons_append, value_cons, hlen', ← rows_eq_pow,
        Nat.mul_add_mod, Nat.mod_eq_of_lt (s.value_lt_rows hlen' hnew), List.tail_cons]

/-- **The row of the start**: as many digits of the empty slot as there are slots give the last row. -/
theorem value_replicate_startDigit :
    s.value (List.replicate s.order s.startDigit) = s.startRow := by
  have key : ∀ n, s.value (List.replicate n s.startDigit) + 1 = s.base ^ n := by
    intro n
    induction n with
    | zero => rfl
    | succ n ih =>
        rw [List.replicate_succ, value_cons, List.length_replicate, Nat.add_assoc, ih,
          ← Nat.mul_succ, pow_succ]
        rfl
  rw [startRow, rows_eq_pow, ← key s.order, Nat.add_sub_cancel]

end ContextSpace

namespace Window

variable {s : ContextSpace}

/-! ## (2) Windows whose row is that of their slots -/

/-- **A window in order**: it has as many slots as the order says, each holds a digit, and the row is
the row of these digits. -/
structure Sound (w : Window s) : Prop where
  /-- There are as many slots as the order says. -/
  length_slots : w.slots.length = s.order
  /-- Each slot holds a digit. -/
  slots_lt : ∀ d ∈ w.slots, d < s.base
  /-- The row is that of the digits. -/
  row_eq : w.row = s.value w.slots

/-- The window before the first letter is in order. -/
theorem Sound.start : (start s).Sound where
  length_slots := List.length_replicate
  slots_lt := fun _ hd => List.eq_of_mem_replicate hd ▸ s.startDigit_lt_base
  row_eq := s.value_replicate_startDigit.symm

/-- **A window stays in order** when a digit moves in. -/
theorem Sound.shift {w : Window s} (hw : w.Sound) {digit : Nat} (h : digit < s.base) :
    (w.shift digit).Sound where
  length_slots := by
    have := s.order_pos
    rw [slots_shift, List.length_append, List.length_tail, hw.length_slots, List.length_singleton]
    omega
  slots_lt := by
    intro d hd
    rcases List.mem_append.mp hd with hd | hd
    · exact hw.slots_lt d (List.mem_of_mem_tail hd)
    · exact List.mem_singleton.mp hd ▸ h
  row_eq := by
    rw [row_shift, slots_shift, hw.row_eq, s.value_shift hw.length_slots hw.slots_lt h]

/-- The row of a window in order is a row of the table. -/
theorem Sound.row_lt {w : Window s} (hw : w.Sound) : w.row < s.rows := by
  rw [hw.row_eq]
  exact s.value_lt_rows hw.length_slots hw.slots_lt

/-- **Windows with the same row have the same slots.** -/
theorem Sound.slots_eq_of_row_eq {w w' : Window s} (hw : w.Sound) (hw' : w'.Sound)
    (h : w.row = w'.row) : w.slots = w'.slots := by
  rw [hw.row_eq, hw'.row_eq] at h
  exact s.value_injective (hw.length_slots.trans hw'.length_slots.symm) hw.slots_lt hw'.slots_lt h

/-! ## (3) Windows after several letters -/

/-- The window after letters with the given codes. -/
def after (w : Window s) (codes : List Nat) : Window s :=
  codes.foldl shift w

@[simp] theorem after_cons (w : Window s) (code : Nat) (codes : List Nat) :
    w.after (code :: codes) = (w.shift code).after codes := rfl

/-- A window stays in order through any letters. -/
theorem Sound.after {w : Window s} (hw : w.Sound) {codes : List Nat}
    (h : ∀ code ∈ codes, code < s.base) : (w.after codes).Sound := by
  induction codes generalizing w with
  | nil => exact hw
  | cons code codes ih =>
      exact ih (hw.shift (h code (by simp))) fun d hd => h d (List.mem_cons_of_mem _ hd)

/-- **The slots after letters** are what is left of the slots and the letters, in order, when as many
are dropped at the old end as came in at the new one. -/
theorem slots_after {w : Window s} (hw : w.slots.length = s.order) (codes : List Nat) :
    (w.after codes).slots = (w.slots ++ codes).drop codes.length := by
  induction codes generalizing w with
  | nil => simp [after]
  | cons code codes ih =>
      obtain ⟨oldest, slots, hslots⟩ : ∃ oldest slots, w.slots = oldest :: slots :=
        List.exists_cons_of_length_pos (hw ▸ s.order_pos)
      have hshift : (w.shift code).slots = slots ++ [code] := by rw [slots_shift, hslots]; rfl
      have hlen : (w.shift code).slots.length = s.order := by
        rw [hshift, ← hw, hslots]
        simp
      rw [after_cons, ih hlen, hshift, hslots, List.append_assoc, List.singleton_append,
        List.cons_append, List.length_cons, List.drop_succ_cons]

end Window
end Pseudoword
