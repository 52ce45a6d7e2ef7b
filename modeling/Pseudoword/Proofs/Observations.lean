import Mathlib.Data.List.DropRight
import Pseudoword.Generator
import Pseudoword.Proofs.Windows

/-! # What a word shows

Spelling a word leads through one more place than it has letters. At each place a context stands and a
column follows it: the next letter, or the end of the word. This file describes both without windows
or rows, and shows that the cells in which a word is observed are the rows and columns of its places.

* **`ContextSpace.contextAt codes place`** — the last slots, as many as the order, of the empty start
  followed by the letters before the place.
* **`ContextSpace.columnAt codes place`** — the next letter, or the end of the word.
* **`ContextSpace.occurrences context column codes`** — at how many places a column follows a context.
* **`ContextSpace.count_spell`** — this is how often the cell is among those of the word. -/

namespace Pseudoword

/-- The last of equal members and others are the last of the others, behind as many of the equal ones as
it takes. -/
theorem rtake_replicate_append {α : Type} (n : Nat) (a : α) (others : List α) :
    (List.replicate n a ++ others).rtake n
      = List.replicate (n - others.length) a ++ others.rtake n := by
  -- as many members are dropped as there are others, of the equal ones first
  have hlength : (List.replicate n a ++ others).length - n = others.length := by simp
  rw [List.rtake, hlength, List.drop_append, List.drop_replicate, List.length_replicate, List.rtake]

namespace ContextSpace

variable (s : ContextSpace)

/-! ## (1) Places -/

/-- **The context at a place**: of as many empty slots as the order says, followed by the letters before
the place, the last ones. -/
def contextAt (codes : List Nat) (place : Nat) : List (Option Int) :=
  (List.replicate s.order none ++ (codes.take place).map fun code : Nat => some (code : Int)).rtake
    s.order

/-- **The column at a place**: the code of the letter there, or the end after the last one. -/
def columnAt (codes : List Nat) (place : Nat) : Nat :=
  codes.getD place s.endColumn

/-- **How often a column follows a context**, over all places of a word. -/
def occurrences (context : List (Option Int)) (column : Nat) (codes : List Nat) : Nat :=
  (List.range (codes.length + 1)).countP fun place =>
    s.contextAt codes place = context ∧ s.columnAt codes place = column

/-- Before the end stands the code of a letter. -/
theorem columnAt_of_lt {codes : List Nat} {place : Nat} (h : place < codes.length) :
    s.columnAt codes place = codes[place] := by
  rw [columnAt, List.getD_eq_getElem?_getD, List.getElem?_eq_getElem h, Option.getD_some]

/-- Every place of a word of letters has a column of the table. -/
theorem columnAt_lt {codes : List Nat} (h : ∀ code ∈ codes, code < s.letters) (place : Nat) :
    s.columnAt codes place < s.columns := by
  rcases Nat.lt_or_ge place codes.length with hlt | hge
  · rw [s.columnAt_of_lt hlt]
    exact s.lt_base_of_lt (h _ (List.getElem_mem hlt))
  · rw [columnAt, List.getD_eq_getElem?_getD, List.getElem?_eq_none_iff.mpr hge, Option.getD_none]
    exact s.startDigit_lt_base

/-- Before the first letter every slot is empty. -/
theorem contextAt_zero (codes : List Nat) :
    s.contextAt codes 0 = List.replicate s.order none := by
  rw [contextAt, List.take_zero, List.map_nil, List.append_nil, List.rtake, List.length_replicate,
    Nat.sub_self, List.drop_zero]

/-- **After a letter the context is not empty any more**: the letter is in its newest slot. -/
theorem mem_contextAt_succ {codes : List Nat} {place : Nat} (h : place < codes.length) :
    some (codes[place] : Int) ∈ s.contextAt codes (place + 1) := by
  obtain ⟨n, hn⟩ := Nat.exists_eq_succ_of_ne_zero (Nat.ne_of_gt s.order_pos)
  rw [contextAt, List.take_succ_eq_append_getElem h, List.map_append, ← List.append_assoc,
    List.map_singleton, hn, List.rtake_concat_succ]
  exact List.mem_append_right _ (List.mem_singleton_self _)

/-! ## (2) Contexts and their rows -/

/-- **A context of the space**: as many slots as the order says, each empty or with a letter's code. -/
structure IsContext (context : List (Option Int)) : Prop where
  /-- There are as many slots as the order says. -/
  length_eq : context.length = s.order
  /-- The codes are those of letters. -/
  code_mem : ∀ code, some code ∈ context → 0 ≤ code ∧ code < s.letters

/-- The digit of a slot whose code is in range. -/
def digitOf : Option Int → Nat
  | none => s.startDigit
  | some code => code.toNat

/-- The slots of a context are read as digits. -/
theorem IsContext.digits_lt {context : List (Option Int)} (h : s.IsContext context) :
    ∀ d ∈ context.map s.digitOf, d < s.base := by
  intro d hd
  obtain ⟨slot, hslot, rfl⟩ := List.mem_map.mp hd
  cases slot with
  | none => exact s.startDigit_lt_base
  | some code =>
      obtain ⟨hle, hlt⟩ := h.code_mem code hslot
      rw [digitOf, base]
      omega

/-- Reading a digit as a slot gives the slot back. -/
theorem slot_digitOf {slot : Option Int}
    (h : ∀ code, slot = some code → 0 ≤ code ∧ code < s.letters) :
    s.slot (s.digitOf slot) = slot := by
  cases slot with
  | none => exact if_pos rfl
  | some code =>
      obtain ⟨hle, hlt⟩ := h code rfl
      have hne : code.toNat ≠ s.startDigit := by rw [startDigit]; omega
      rw [digitOf, ContextSpace.slot, if_neg hne, Int.toNat_of_nonneg hle]

/-- The slots of a context are found again in its digits. -/
theorem IsContext.map_slot_map_digitOf {context : List (Option Int)} (h : s.IsContext context) :
    (context.map s.digitOf).map s.slot = context := by
  rw [List.map_map]
  conv_rhs => rw [← List.map_id context]
  apply List.map_congr_left
  intro slot hslot
  exact s.slot_digitOf fun code hcode => h.code_mem code (hcode ▸ hslot)

/-- Reading slots one by one gives the row of their digits, after those of the first row. -/
theorem rowFrom_eq {context : List (Option Int)}
    (h : ∀ code, some code ∈ context → 0 ≤ code ∧ code < s.letters) (digits : List Nat) :
    s.rowFrom (s.value digits) context = .ok (s.value (digits ++ context.map s.digitOf)) := by
  induction context generalizing digits with
  | nil => simp [rowFrom]
  | cons slot context ih =>
      have hdigit : s.digit slot = .ok (s.digitOf slot) := by
        cases slot with
        | none => rfl
        | some code => exact if_pos (h code (by simp))
      have hrest := ih (fun code hcode => h code (List.mem_cons_of_mem _ hcode))
        (digits ++ [s.digitOf slot])
      rw [value_concat] at hrest
      rw [rowFrom, hdigit]
      simp only [hrest, List.map_cons, List.append_assoc, List.singleton_append]

/-- **The row of a context** is the row of the digits of its slots. -/
theorem rowFor_eq {context : List (Option Int)} (h : s.IsContext context) :
    s.rowFor context = .ok (s.value (context.map s.digitOf)) := by
  rw [rowFor, if_pos h.length_eq, ← s.value_nil, s.rowFrom_eq h.code_mem, List.nil_append]

/-! ## (3) The window at a place -/

variable {s}

/-- The window at a place of a word of letters is in order. -/
theorem sound_after_take {codes : List Nat} (h : ∀ code ∈ codes, code < s.letters) (place : Nat) :
    ((Window.start s).after (codes.take place)).Sound :=
  Window.Sound.start.after fun code hcode => s.lt_base_of_lt (h code (List.mem_of_mem_take hcode))

/-- **The slots at a place** show the context at that place. -/
theorem map_slot_slots_after {codes : List Nat} (h : ∀ code ∈ codes, code < s.letters)
    (place : Nat) :
    ((Window.start s).after (codes.take place)).slots.map s.slot = s.contextAt codes place := by
  have hstart : (List.replicate s.order s.startDigit).map s.slot = List.replicate s.order none := by
    rw [List.map_replicate, slot, if_pos rfl]
  have hletters : (codes.take place).map s.slot
      = (codes.take place).map fun code : Nat => some (code : Int) := by
    apply List.map_congr_left
    intro code hcode
    exact if_neg (Nat.ne_of_lt (h code (List.mem_of_mem_take hcode)))
  rw [Window.slots_after Window.Sound.start.length_slots, Window.slots_start, List.map_drop,
    List.map_append, hstart, hletters, contextAt, List.rtake]
  congr 1
  simp

/-- **The row at a place tells the context there**: it is the row of a context exactly where that
context stands. -/
theorem row_after_eq_iff {codes : List Nat} (h : ∀ code ∈ codes, code < s.letters) (place : Nat)
    {context : List (Option Int)} (hcontext : s.IsContext context) :
    ((Window.start s).after (codes.take place)).row = s.value (context.map s.digitOf)
      ↔ s.contextAt codes place = context := by
  have hsound := sound_after_take h place
  rw [hsound.row_eq, ← map_slot_slots_after h place]
  constructor
  · -- equal rows have equal digits, and the slots can be read off these
    intro heq
    have hlen : ((Window.start s).after (codes.take place)).slots.length
        = (context.map s.digitOf).length := by
      rw [hsound.length_slots, List.length_map, hcontext.length_eq]
    rw [s.value_injective hlen hsound.slots_lt hcontext.digits_lt heq, hcontext.map_slot_map_digitOf]
  · -- reading a digit as a slot and back changes nothing, whether it is the empty one or a letter
    intro heq
    congr 1
    rw [← heq, List.map_map]
    conv_lhs => rw [← List.map_id ((Window.start s).after (codes.take place)).slots]
    apply List.map_congr_left
    intro d hd
    by_cases hstart : d = s.startDigit
    · simp [slot, digitOf, hstart]
    · simp [slot, digitOf, hstart]

/-- **Equal rows at two places mean equal contexts.** -/
theorem contextAt_eq_of_row_eq {codes codes' : List Nat} {place place' : Nat}
    (h : ∀ code ∈ codes, code < s.letters) (h' : ∀ code ∈ codes', code < s.letters)
    (heq : ((Window.start s).after (codes.take place)).row
      = ((Window.start s).after (codes'.take place')).row) :
    s.contextAt codes place = s.contextAt codes' place' := by
  rw [← map_slot_slots_after h, ← map_slot_slots_after h',
    (sound_after_take h place).slots_eq_of_row_eq (sound_after_take h' place') heq]

/-- What stands at a place of a word of letters is a context. -/
theorem isContext_contextAt {codes : List Nat} (h : ∀ code ∈ codes, code < s.letters)
    (place : Nat) : s.IsContext (s.contextAt codes place) where
  length_eq := by
    rw [← map_slot_slots_after h place, List.length_map, (sound_after_take h place).length_slots]
  code_mem := fun code hcode => by
    rw [← map_slot_slots_after h place] at hcode
    obtain ⟨digit, hdigit, hslot⟩ := List.mem_map.mp hcode
    have hlt : digit < s.letters + 1 := (sound_after_take h place).slots_lt digit hdigit
    rw [slot, startDigit] at hslot
    split at hslot
    · cases hslot
    · obtain rfl := Option.some.inj hslot
      omega

/-- **Equal contexts at two places mean equal rows.** -/
theorem row_eq_of_contextAt_eq {codes codes' : List Nat} {place place' : Nat}
    (h : ∀ code ∈ codes, code < s.letters) (h' : ∀ code ∈ codes', code < s.letters)
    (heq : s.contextAt codes place = s.contextAt codes' place') :
    ((Window.start s).after (codes.take place)).row
      = ((Window.start s).after (codes'.take place')).row := by
  have hcontext := isContext_contextAt h' place'
  rw [(row_after_eq_iff h place hcontext).mpr heq, (row_after_eq_iff h' place' hcontext).mpr rfl]

/-! ## (4) The cells of a word -/

/-- **The cells of a word are those of its places**, in order. -/
theorem spell_eq_map (w : Window s) (codes : List Nat) :
    w.spell codes = (List.range (codes.length + 1)).map fun place =>
      ((w.after (codes.take place)).row, s.columnAt codes place) := by
  induction codes generalizing w with
  | nil => rfl
  | cons code codes ih =>
      rw [Window.spell, ih, List.length_cons, List.range_succ_eq_map (n := codes.length + 1),
        List.map_cons, List.map_map]
      rfl

/-- A cell is among those of a word exactly if it is that of a place. -/
theorem mem_spell_iff {w : Window s} {codes : List Nat} {cell : Cell} :
    cell ∈ w.spell codes ↔ ∃ place ≤ codes.length,
      (w.after (codes.take place)).row = cell.1 ∧ s.columnAt codes place = cell.2 := by
  simp only [spell_eq_map, List.mem_map, List.mem_range, Nat.lt_succ_iff, Prod.ext_iff]

@[simp] theorem length_spell (w : Window s) (codes : List Nat) :
    (w.spell codes).length = codes.length + 1 := by
  rw [spell_eq_map, List.length_map, List.length_range]

/-- **Counting a cell among those of a word** counts the places at which its column follows its
context. -/
theorem count_spell {codes : List Nat} (h : ∀ code ∈ codes, code < s.letters)
    {context : List (Option Int)} (hcontext : s.IsContext context) (column : Nat) :
    ((Window.start s).spell codes).count (s.value (context.map s.digitOf), column)
      = s.occurrences context column codes := by
  rw [spell_eq_map, List.count, List.countP_map, occurrences]
  apply List.countP_congr
  intro place _
  simp only [Function.comp_apply, beq_iff_eq, Prod.mk.injEq, decide_eq_true_eq,
    row_after_eq_iff h place hcontext]

/-- Every cell of a word of letters is in the table. -/
theorem lt_of_mem_spell {codes : List Nat} (h : ∀ code ∈ codes, code < s.letters) {cell : Cell}
    (hcell : cell ∈ (Window.start s).spell codes) : cell.1 < s.rows ∧ cell.2 < s.columns := by
  obtain ⟨place, -, hrow, hcolumn⟩ := mem_spell_iff.mp hcell
  exact ⟨hrow ▸ (sound_after_take h place).row_lt, hcolumn ▸ s.columnAt_lt h place⟩

end ContextSpace
end Pseudoword
