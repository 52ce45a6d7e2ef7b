import Mathlib
import Pseudoword.Proofs.Moves
import Pseudoword.Proofs.Spelling

/-! # Contexts and rows, back and forth

A row is read from a context slot by slot, the oldest one first, and a context is read off a row digit by
digit, the newest one first. The two readings undo each other: every context has a row of its own, and every
row of the table is that of a context. What is no context has no row, and what is no row has no context.

* **`ContextSpace.rowFrom_of_first_foreign`** — reading fails at the first code that is not that of a letter.
* **`ContextSpace.rowFor_eq_ok_iff`** — a context has a row exactly if the row has that context.
* **`ContextSpace.exists_rowFor_eq_ok_iff`**, **`ContextSpace.exists_contextFor_eq_ok_iff`** — what has a row,
  and what has a context.
* **`ContextSpace.rowFor_ofSizes`** — contexts and rows for any numbers of letters and slots. -/

namespace Pseudoword

namespace ContextSpace

variable (s : ContextSpace)

/-! ## (1) Reading a row from a context -/

/-- **Reading fails at the first code that is not that of a letter**, whatever row was read so far. -/
theorem rowFrom_of_first_foreign {earlier later : List (Option Int)} {code : Int}
    (hearlier : ∀ other, some other ∈ earlier → 0 ≤ other ∧ other < s.letters)
    (hcode : ¬ (0 ≤ code ∧ code < s.letters)) (row : Nat) :
    s.rowFrom row (earlier ++ some code :: later) = .error (.foreignCode code s.letters) := by
  induction earlier generalizing row with
  | nil =>
      have hdigit : s.digit (some code) = .error (.foreignCode code s.letters) := if_neg hcode
      rw [List.nil_append, rowFrom, hdigit]
  | cons slot earlier ih =>
      have hdigit : s.digit slot = .ok (s.digitOf slot) := by
        cases slot with
        | none => rfl
        | some other => exact if_pos (hearlier other (by simp))
      rw [List.cons_append, rowFrom, hdigit]
      exact ih (fun other hother => hearlier other (List.mem_cons_of_mem _ hother)) _

/-- Slots are a context, or there are too few or too many, or one is the first with a code that is not
that of a letter. -/
theorem isContext_or (context : List (Option Int)) :
    s.IsContext context ∨ context.length ≠ s.order
      ∨ context.length = s.order ∧ ∃ (earlier : List (Option Int)) (code : Int) (later : List (Option Int)),
        context = earlier ++ some code :: later
        ∧ (∀ other, some other ∈ earlier → 0 ≤ other ∧ other < s.letters)
        ∧ ¬ (0 ≤ code ∧ code < s.letters) := by
  by_cases hlength : context.length = s.order
  · rcases forall_or_exists_first
        (fun slot : Option Int => ∀ code, slot = some code → 0 ≤ code ∧ code < s.letters) context with
      hall | ⟨earlier, slot, later, hsplit, hearlier, hslot⟩
    · exact .inl ⟨hlength, fun code hcode => hall _ hcode code rfl⟩
    · rw [not_forall] at hslot
      obtain ⟨code, hcode⟩ := hslot
      rw [Classical.not_imp] at hcode
      obtain ⟨rfl, hforeign⟩ := hcode
      exact .inr (.inr ⟨hlength, earlier, code, later, hsplit,
        fun other hother => hearlier _ hother other rfl, hforeign⟩)
  · exact .inr (.inl hlength)

theorem rowFor_of_wrongLength {context : List (Option Int)} (h : context.length ≠ s.order) :
    s.rowFor context = .error (.wrongLength s.order) :=
  if_neg h

theorem rowFor_of_first_foreign {earlier later : List (Option Int)} {code : Int}
    (hlength : (earlier ++ some code :: later).length = s.order)
    (hearlier : ∀ other, some other ∈ earlier → 0 ≤ other ∧ other < s.letters)
    (hcode : ¬ (0 ≤ code ∧ code < s.letters)) :
    s.rowFor (earlier ++ some code :: later) = .error (.foreignCode code s.letters) := by
  rw [rowFor, if_pos hlength, s.rowFrom_of_first_foreign hearlier hcode]

/-- **What has a row**: contexts. -/
theorem exists_rowFor_eq_ok_iff {context : List (Option Int)} :
    (∃ row, s.rowFor context = .ok row) ↔ s.IsContext context := by
  constructor
  · rintro ⟨row, hrow⟩
    rcases s.isContext_or context with
      hcontext | hlength | ⟨hlength, earlier, code, later, rfl, hearlier, hcode⟩
    · exact hcontext
    · cases hrow.symm.trans (s.rowFor_of_wrongLength hlength)
    · cases hrow.symm.trans (s.rowFor_of_first_foreign hlength hearlier hcode)
  · exact fun hcontext => ⟨_, s.rowFor_eq hcontext⟩

/-! ## (2) Reading a context off a row -/

/-- **What has a context**: rows of the table. -/
theorem exists_contextFor_eq_ok_iff {row : Int} :
    (∃ context, s.contextFor row = .ok context) ↔ 0 ≤ row ∧ row < s.rows := by
  constructor
  · rintro ⟨context, hcontext⟩
    by_contra hrow
    rw [contextFor, if_neg hrow] at hcontext
    cases hcontext
  · exact fun hrow => ⟨_, if_pos hrow⟩

/-- **A context is found again in its row.** -/
theorem contextFor_of_rowFor {context : List (Option Int)} {row : Nat}
    (h : s.rowFor context = .ok row) : s.contextFor row = .ok context := by
  have hcontext : s.IsContext context := s.exists_rowFor_eq_ok_iff.mp ⟨row, h⟩
  have hlength : (context.map s.digitOf).length = s.order := by
    rw [List.length_map, hcontext.length_eq]
  obtain rfl := Except.ok.inj ((s.rowFor_eq hcontext).symm.trans h)
  have hrow : s.value (context.map s.digitOf) < s.rows :=
    s.value_lt_rows hlength (hcontext.digits_lt)
  rw [contextFor, if_pos ⟨by omega, by omega⟩, Int.toNat_natCast,
    s.digits_value hlength hcontext.digits_lt, hcontext.map_slot_map_digitOf]

/-- **A row is found again in its context**, which is one of the space. -/
theorem rowFor_of_contextFor {context : List (Option Int)} {row : Int}
    (h : s.contextFor row = .ok context) :
    s.IsContext context ∧ s.rowFor context = .ok row.toNat := by
  obtain ⟨hle, hlt⟩ := s.exists_contextFor_eq_ok_iff.mp ⟨context, h⟩
  rw [contextFor, if_pos ⟨hle, hlt⟩] at h
  obtain rfl := Except.ok.inj h
  have hcontext : s.IsContext ((s.digits row.toNat).map s.slot) :=
    s.isContext_map_slot (s.length_digits _) (s.digits_lt _)
  refine ⟨hcontext, ?_⟩
  rw [s.rowFor_eq hcontext, s.map_digitOf_map_slot, s.value_digits (by omega)]

/-- **The two readings undo each other**: a context has a row exactly if the row has that context. -/
theorem rowFor_eq_ok_iff {context : List (Option Int)} {row : Nat} :
    s.rowFor context = .ok row ↔ s.contextFor row = .ok context :=
  ⟨s.contextFor_of_rowFor, fun h => (s.rowFor_of_contextFor h).2⟩

/-- **Where all slots are empty**, the row is the last one. -/
theorem rowFor_replicate_none :
    s.rowFor (List.replicate s.order none) = .ok s.startRow := by
  have hstart := (Window.Sound.start (s := s)).rowFor_slots
  rwa [Window.slots_start, List.map_replicate, ContextSpace.slot, if_pos rfl] at hstart

/-! ## (3) Any numbers of letters and slots -/

/-- The space of contexts over a positive number of letters, with a positive number of slots. -/
theorem exists_ofSizes_eq_ok {letters order : Int} (hletters : 1 ≤ letters) (horder : 1 ≤ order) :
    ∃ s, ofSizes letters order = .ok s ∧ (s.letters : Int) = letters ∧ (s.order : Int) = order := by
  refine ⟨⟨letters.toNat, order.toNat, by omega, by omega⟩, ?_, ?_, ?_⟩
  · rw [ofSizes, dif_pos hletters, dif_pos horder]
  · exact Int.toNat_of_nonneg (by omega)
  · exact Int.toNat_of_nonneg (by omega)

/-- There are as many rows as there are ways to fill the slots, each with a letter or not at all. -/
theorem natCast_rows : (s.rows : Int) = (s.letters + 1) ^ s.order := by
  exact_mod_cast rfl

/-- The last row is one below their number. -/
theorem natCast_startRow : (s.startRow : Int) = (s.letters + 1) ^ s.order - 1 := by
  have hpos := s.rows_pos
  rw [← s.natCast_rows, startRow]
  omega

/-- **Contexts and rows for any numbers of letters and slots**, both positive. A list of slots has a row exactly
if it is as long as there are slots and its codes are those of letters; it fails for its length, or else for
its first code that is not that of a letter. An integer has a context exactly if it is the number of a row.
What was read one way is found again the other way. Where all slots are empty, the row is the last one. -/
theorem rowFor_ofSizes {letters order : Int} (hletters : 1 ≤ letters) (horder : 1 ≤ order) :
    ∃ s, ofSizes letters order = .ok s
      ∧ (∀ context, (∃ row, s.rowFor context = .ok row)
        ↔ context.length = order ∧ ∀ code, some code ∈ context → 0 ≤ code ∧ code < letters)
      ∧ (∀ context : List (Option Int), context.length ≠ order →
        s.rowFor context = .error (.wrongLength order.toNat))
      ∧ (∀ earlier code later, ((earlier ++ some code :: later).length : Int) = order →
        (∀ other, some other ∈ earlier → 0 ≤ other ∧ other < letters) →
        ¬ (0 ≤ code ∧ code < letters) →
        s.rowFor (earlier ++ some code :: later) = .error (.foreignCode code letters.toNat))
      ∧ (∀ row, (∃ context, s.contextFor row = .ok context)
        ↔ 0 ≤ row ∧ row < (letters + 1) ^ order.toNat)
      ∧ (∀ row, ¬ (0 ≤ row ∧ row < (letters + 1) ^ order.toNat) →
        s.contextFor row = .error (.foreignRow row))
      ∧ (∀ context row, s.rowFor context = .ok row →
        (row : Int) < (letters + 1) ^ order.toNat ∧ s.contextFor row = .ok context)
      ∧ (∀ row context, s.contextFor row = .ok context →
        context.length = order ∧ (∀ code, some code ∈ context → 0 ≤ code ∧ code < letters)
          ∧ ∃ found : Nat, s.rowFor context = .ok found ∧ (found : Int) = row)
      ∧ s.rowFor (List.replicate order.toNat none) = .ok s.startRow
      ∧ (s.startRow : Int) = (letters + 1) ^ order.toNat - 1 := by
  obtain ⟨s, hs, rfl, rfl⟩ := exists_ofSizes_eq_ok hletters horder
  simp only [Int.toNat_natCast, ne_eq, Int.natCast_inj, ← s.natCast_rows]
  refine ⟨s, hs, fun context => ?_, fun context => s.rowFor_of_wrongLength,
    fun earlier code later => s.rowFor_of_first_foreign, fun row => s.exists_contextFor_eq_ok_iff,
    fun row hrow => if_neg hrow, fun context row hrow => ?_, fun row context hcontext => ?_,
    s.rowFor_replicate_none, ?_⟩
  · rw [s.exists_rowFor_eq_ok_iff]
    exact ⟨fun h => ⟨h.length_eq, h.code_mem⟩, fun h => ⟨h.1, h.2⟩⟩
  · have hcontext := s.contextFor_of_rowFor hrow
    exact ⟨(s.exists_contextFor_eq_ok_iff.mp ⟨context, hcontext⟩).2, hcontext⟩
  · obtain ⟨hin, hrow⟩ := s.rowFor_of_contextFor hcontext
    have hle := (s.exists_contextFor_eq_ok_iff.mp ⟨context, hcontext⟩).1
    exact ⟨hin.length_eq, hin.code_mem, _, hrow, Int.toNat_of_nonneg hle⟩
  · rw [s.natCast_startRow, s.natCast_rows]

/-- Over two letters and with two slots, the empty slot before the second letter is row seven, one context of
three slots has no row and one with a third letter has none, and there is no row nine. -/
theorem rowFor_ofSizes_two :
    ∃ s, ofSizes 2 2 = .ok s ∧ s.rowFor [none, some 1] = .ok 7 ∧ s.contextFor 7 = .ok [none, some 1]
      ∧ s.rowFor [none, some 1, none] = .error (.wrongLength 2)
      ∧ s.rowFor [none, some 2] = .error (.foreignCode 2 2)
      ∧ s.contextFor 9 = .error (.foreignRow 9) ∧ s.contextFor (-1) = .error (.foreignRow (-1))
      ∧ s.rowFor [none, none] = .ok 8 := by
  obtain ⟨s, hs, -, hlength, hforeign, -, hnone, hback, hforth, hstart, -⟩ :=
    rowFor_ofSizes (show (1 : Int) ≤ 2 by decide) (show (1 : Int) ≤ 2 by decide)
  cases hs
  obtain ⟨-, hseven⟩ := hback [none, some 1] 7 (by decide)
  obtain ⟨-, -, found, hfound, hrow⟩ := hforth 7 _ hseven
  obtain rfl : found = 7 := by omega
  refine ⟨_, rfl, hfound, hseven, hlength [none, some 1, none] (by decide),
    hforeign [none] 2 [] (by decide) (by simp) (by decide), hnone 9 (by decide),
    hnone (-1) (by decide), hstart⟩

end ContextSpace
end Pseudoword
