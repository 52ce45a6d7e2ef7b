import Mathlib
import Pseudoword.Proofs.Moves
import Pseudoword.Proofs.Statistics

/-! # Windows after the end of a word

The end of a word has the digit of an empty slot. Once it has been moved into a window, an empty slot stands
behind a letter there, while in the contexts of words the empty slots come first. So nothing was ever seen in
the row of such a window. Without a letter before the end, or with a single slot, there is no letter left for
the empty slot to stand behind: the window then shows the start, in whose row something was seen as soon as a
word is settled.

* **`Window.holds_run_finish`** — what a window holds after letters and the end.
* **`Window.Holds.row_eq_startRow`**, **`Window.Holds.exists_slots_eq`** — its row, or its last slots.
* **`Generator.Embodies.isDead_of_slots_eq`** — an empty slot behind a letter makes a row dead.
* **`Generator.isDead_finish_run`** — which of these rows are dead, after any run. -/

namespace Pseudoword

namespace Window

variable {s : ContextSpace} {w : Window s} {codes : List Nat}

/-! ## (1) What the window holds -/

/-- **After a move back to the start, letters and the end**, the window holds the letters and the digit of the
end, and the word has ended. -/
theorem holds_run_finish (s : ContextSpace) (moves : List Move) (h : ∀ code ∈ codes, code < s.letters) :
    let w := (start s).run
      (moves ++ Move.reset :: codes.map (fun code : Nat => Move.push code) ++ [Move.finish])
    w.Holds (codes ++ [s.endColumn]) ∧ w.ended = true := by
  intro last
  have hletters := holds_run_reset s moves h
  set w := (start s).run (moves ++ .reset :: codes.map fun code : Nat => .push code)
  -- no letter is the end, so that the end may come
  have hopen : w.ended = false := by
    rw [← Bool.not_eq_true, hletters.ended_iff]
    exact fun hmem => Nat.lt_irrefl _ (h _ hmem)
  have hfinish : w.move? .finish = .ok { w.shift s.endColumn with ended := true } := by
    rw [move?, Window.finish, hopen]
    rfl
  have hrun : w.run [.finish] = { w.shift s.endColumn with ended := true } := by
    show w.perform .finish = _
    rw [perform, hfinish]
  have hlast : last = { w.shift s.endColumn with ended := true } := by
    rw [← hrun, ← run_append]
  rw [hlast]
  exact ⟨hletters.move hfinish, rfl⟩

/-- **Without a letter before the end, or with a single slot**, the window shows the start. -/
theorem Holds.row_eq_startRow (h : w.Holds (codes ++ [s.endColumn]))
    (hfew : s.order = 1 ∨ codes = []) : w.row = s.startRow := by
  rw [← row_start, h.row_eq_iff Holds.start]
  rcases hfew with horder | rfl
  · -- the only slot is that of the end
    rw [horder, ← List.append_assoc, List.rtake_concat_succ, List.rtake_zero]
    rfl
  · -- one more empty slot behind the others
    rw [List.nil_append, List.append_nil, ContextSpace.endColumn, ← ContextSpace.startDigit,
      ← List.replicate_succ', List.replicate_succ, List.rtake, List.rtake]
    simp

/-- **Behind a letter**, the end is an empty slot, if there is a slot for each. -/
theorem Holds.exists_slots_eq {code : Nat} (h : w.Holds (codes ++ [code] ++ [s.endColumn]))
    (horder : 2 ≤ s.order) : ∃ older, w.slots = older ++ [code, s.startDigit] := by
  obtain ⟨n, hn⟩ := Nat.exists_eq_add_of_le' horder
  refine ⟨(List.replicate s.order s.startDigit ++ codes).rtake n, ?_⟩
  rw [h.slots_eq_rtake, hn, ← List.append_assoc, ← List.append_assoc, List.rtake_concat_succ,
    List.rtake_concat_succ, List.append_assoc]
  rfl

end Window

/-! ## (2) Which rows are dead -/

/-- Where the empty slots come first, none stands behind a letter. -/
theorem replicate_none_append_ne {α : Type} {blanks : Nat} {codes : List α} {older : List (Option α)}
    {code : α} : List.replicate blanks none ++ codes.map some ≠ older ++ [some code, none] := by
  intro heq
  rcases List.eq_nil_or_concat' codes with rfl | ⟨before, last, rfl⟩
  · have hmem : some code ∈ List.replicate blanks (none : Option α) := by
      rw [List.map_nil, List.append_nil] at heq
      rw [heq]
      simp
    cases List.eq_of_mem_replicate hmem
  · have hlast := congrArg List.getLast? heq
    simp at hlast

namespace Generator

variable {g : Generator} {learned settled : List String} {w : Window g.space}

/-- **The start is live**, as soon as a word is settled. -/
theorem Embodies.isDead_startRow (h : g.Embodies learned settled) (hne : settled ≠ []) :
    g.table.isDead g.space.startRow = .ok false := by
  have hrow : g.space.startRow < g.space.rows := by
    rw [← Window.row_start]
    exact Window.Sound.start.row_lt
  obtain ⟨column, hcolumn⟩ := exists_mem_cellsOf_start (g := g) hne
  rw [h.isDead_eq hrow, Bool.eq_false_of_not_eq_true fun hdead => (h.isDeadRow_iff _).mp hdead column hcolumn]

/-- **A row with an empty slot behind a letter is dead**, since in the contexts of words the empty slots come
first. -/
theorem Embodies.isDead_of_slots_eq (h : g.Embodies learned settled) (hw : w.Sound) {older : List Nat}
    {code : Nat} (hcode : code < g.space.letters) (hslots : w.slots = older ++ [code, g.space.startDigit]) :
    g.table.isDead w.row = .ok true := by
  rw [h.isDead_eq hw.row_lt]
  refine congrArg Except.ok (by_contra fun hlive => ?_)
  rw [Bool.not_eq_true] at hlive
  -- the context of the row, once as that of the window and once as that of a live row
  have hcontext := hw.contextFor_row
  obtain ⟨blanks, codes, hwords⟩ :=
    h.exists_contextFor_of_live ((h.isDead_eq hw.row_lt).trans (congrArg Except.ok hlive))
  have hletter : g.space.slot code = some (code : Int) := if_neg hcode.ne
  have hblank : g.space.slot g.space.startDigit = none := if_pos rfl
  rw [hwords, hslots, List.map_append, List.map_cons, List.map_singleton, hletter, hblank] at hcontext
  exact replicate_none_append_ne (Except.ok.inj hcontext)

/-- **After a move back to the start, letters and the end**, the row is dead if there is a slot for the end
behind a letter, and else it is the start. -/
theorem Embodies.isDead_run_finish (h : g.Embodies learned settled) (hne : settled ≠ [])
    (moves : List Window.Move) (codes : List Nat) (hcodes : ∀ code ∈ codes, code < g.space.letters) :
    let w := (Window.start g.space).run
      (moves ++ Window.Move.reset :: codes.map (fun code : Nat => Window.Move.push code)
        ++ [Window.Move.finish])
    g.table.isDead w.row = .ok (decide (2 ≤ g.space.order ∧ codes ≠ []))
      ∧ (¬ (2 ≤ g.space.order ∧ codes ≠ []) → w.row = g.space.startRow) := by
  intro w
  have hw : w.Holds (codes ++ [g.space.endColumn]) := (Window.holds_run_finish g.space moves hcodes).1
  by_cases hmany : 2 ≤ g.space.order ∧ codes ≠ []
  · refine ⟨?_, fun hfew => absurd hmany hfew⟩
    obtain ⟨horder, hletters⟩ := hmany
    rw [decide_eq_true ⟨horder, hletters⟩]
    obtain rfl | ⟨earlier, code, rfl⟩ := List.eq_nil_or_concat' codes
    · exact absurd rfl hletters
    · obtain ⟨older, hslots⟩ := hw.exists_slots_eq horder
      exact h.isDead_of_slots_eq hw.sound
        (hcodes code (List.mem_append_right _ (List.mem_singleton_self _))) hslots
  · have hrow : w.row = g.space.startRow := by
      apply hw.row_eq_startRow
      by_contra hnot
      have hpos := g.space.order_pos
      exact hmany ⟨by omega, fun hnil => hnot (.inr hnil)⟩
    refine ⟨?_, fun _ => hrow⟩
    rw [hrow, decide_eq_false hmany, h.isDead_startRow hne]

/-! ## (3) Every run -/

/-- **The end of a word, moved in after any run**, in which a word was settled, and after any moves of the
window. After a move back to the start, any letters, and the end, which are all let in, the row is dead if
there are two slots or more and a letter came before the end. Otherwise it is that of the start, in whose
context all slots are empty; and that one is live. -/
theorem isDead_finish_run (alphabet : Alphabet) (order : Nat) (order_pos : 0 < order) (patience : Setting)
    (operations : List Operation)
    (hsettled : (untrained alphabet order order_pos patience).settledIn operations ≠ [])
    (moves : List Window.Move) (codes : List Nat) (hcodes : ∀ code ∈ codes, code < alphabet.size) :
    let g := (untrained alphabet order order_pos patience).run operations
    let s := contexts alphabet order order_pos
    let w := (Window.start s).run
      (moves ++ Window.Move.reset :: codes.map (fun code : Nat => Window.Move.push code)
        ++ [Window.Move.finish])
    w.ended = true
      ∧ w.slots = (List.replicate order alphabet.size ++ (codes ++ [alphabet.size])).rtake order
      ∧ g.table.isDead w.row = .ok (decide (2 ≤ order ∧ codes ≠ []))
      ∧ (¬ (2 ≤ order ∧ codes ≠ []) → w.row = s.startRow)
      ∧ s.contextFor s.startRow = .ok (List.replicate order none)
      ∧ g.table.isDead s.startRow = .ok false := by
  intro g s w
  have h : g.Embodies _ _ := embodies_run alphabet order order_pos patience operations
  have hspace : g.space = s :=
    (sameMake_run (untrained alphabet order order_pos patience) operations).space_eq
  obtain ⟨hw, hended⟩ := Window.holds_run_finish s moves hcodes
  -- the contexts of the generator are those of the window
  have hdead := h.isDead_run_finish hsettled moves codes
  rw [hspace] at hdead
  obtain ⟨hrow, hstart⟩ := hdead hcodes
  have hlive := h.isDead_startRow hsettled
  rw [hspace] at hlive
  have hcontext := (Window.Sound.start (s := s)).contextFor_row
  rw [Window.row_start, Window.slots_start, List.map_replicate] at hcontext
  refine ⟨hended, hw.slots_eq_rtake, hrow, hstart, ?_, hlive⟩
  rw [hcontext, ContextSpace.slot, if_pos rfl]
  rfl

/-- With two slots, the row after a letter and the end is dead, whatever the window held before; with a single
slot it is live, and with two slots so is that after the end alone. -/
theorem isDead_finish_mixedRun :
    let g := (untrained .ofAB 2 Nat.two_pos (.integer 1000)).run mixedRun
    let shallow := (untrained .ofAB 1 Nat.one_pos (.integer 1000)).run mixedRun
    let w (order : Nat) (order_pos : 0 < order) (moves : List Window.Move) :=
      (Window.start (contexts .ofAB order order_pos)).run moves
    g.table.isDead (w 2 Nat.two_pos [.push 1, .finish, .reset, .push 0, .finish]).row = .ok true
      ∧ g.table.isDead (w 2 Nat.two_pos [.push 1, .reset, .finish]).row = .ok false
      ∧ shallow.table.isDead (w 1 Nat.one_pos [.reset, .push 0, .finish]).row = .ok false := by
  intro g shallow w
  have hsettled : (untrained .ofAB 2 Nat.two_pos (.integer 1000)).settledIn mixedRun ≠ [] := by
    decide +kernel
  have hshallow : (untrained .ofAB 1 Nat.one_pos (.integer 1000)).settledIn mixedRun ≠ [] := by
    decide +kernel
  exact ⟨(isDead_finish_run .ofAB 2 Nat.two_pos _ mixedRun hsettled [.push 1, .finish] [0] (by decide)).2.2.1,
    (isDead_finish_run .ofAB 2 Nat.two_pos _ mixedRun hsettled [.push 1] [] (by decide)).2.2.1,
    (isDead_finish_run .ofAB 1 Nat.one_pos _ mixedRun hshallow [] [0] (by decide)).2.2.1⟩

end Generator
end Pseudoword
