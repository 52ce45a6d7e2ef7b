import Mathlib
import Pseudoword.Proofs.Generating
import Pseudoword.Proofs.Trials

/-! # More draws and more words

Sampling takes its draws one by one from the front, and a word leaves over what it did not need for the
next. So once an outcome is decided, further draws behind those that were prepared change nothing but what
is left over; and whoever asks for fewer words gets the first of those that he would have got.

* **`Mersenne.draws_add`** — more draws of one source start with fewer.
* **`Generator.attempt_append`**, **`Generator.generateMany_append`** — further draws change no outcome
  that is decided, by induction on the draws and on the number of words.
* **`Generator.found_generateMany_of_le`**, **`Generator.fault_generateMany_of_le`** — fewer words.
* **`Generator.Embodies.forall_mem_found`** — what holds of every word that is found. -/

namespace Pseudoword

/-! ## (1) Draws of one source -/

namespace Mersenne

theorem drawsOnto_eq (n : Nat) (m : Mersenne) (drawn : List Draw) :
    drawsOnto n m drawn = drawn.reverse ++ draws n m := by
  induction n generalizing m drawn with
  | zero => simp [drawsOnto, draws]
  | succ n ih =>
      rw [draws, drawsOnto, drawsOnto]
      dsimp only
      rw [ih, ih _ [_]]
      simp

theorem draws_succ (n : Nat) (m : Mersenne) : draws (n + 1) m = m.draw.1 :: draws n m.draw.2 := by
  rw [draws, drawsOnto]
  exact drawsOnto_eq n m.draw.2 [m.draw.1]

/-- **More draws of one source start with fewer.** -/
theorem draws_add (n k : Nat) (m : Mersenne) : draws (n + k) m = draws n m ++ draws k (skip n m) := by
  induction n generalizing m with
  | zero =>
      rw [Nat.zero_add]
      rfl
  | succ n ih => rw [Nat.add_right_comm, draws_succ, ih, draws_succ, List.cons_append, skip]

end Mersenne

/-! ## (2) Further draws -/

/-- **A walk that has ended** is the same if further draws follow, and leaves these over. -/
theorem Window.walk_append {s : ContextSpace} (t : Table) (w : Window s) {draws : List Draw}
    (hended : (w.walk t draws).ending ≠ .outOfDraws) (later : List Draw) :
    w.walk t (draws ++ later) = { w.walk t draws with rest := (w.walk t draws).rest ++ later } := by
  induction draws generalizing w with
  | nil => exact absurd rfl hended
  | cons u us ih =>
      rw [List.cons_append, walk]
      rw [walk] at hended ⊢
      -- only a letter that is pushed makes the walk go on
      split
      · rfl
      · rfl
      · next column hsample =>
        split
        · split <;> rfl
        · next hletter =>
          split
          · rfl
          · next next hpush =>
            have hrest : (next.walk t us).ending ≠ .outOfDraws := by
              simpa only [hsample, hletter, if_false, hpush, Walk.after] using hended
            rw [ih next hrest]
            rfl

namespace Generator

variable {g : Generator} {learned settled : List String} {accepts : Judge} {draws : List Draw}

/-- **A trial that has come to something** is the same if further draws follow. -/
theorem trial_append (hdecided : (g.trial draws).word ≠ .error .outOfDraws) (later : List Draw) :
    g.trial (draws ++ later) = ⟨(g.trial draws).word, (g.trial draws).rest ++ later⟩ := by
  have hended : (g.walk draws).ending ≠ .outOfDraws := by
    intro hending
    simp only [trial, hending] at hdecided
    exact hdecided rfl
  have hwalk : g.walk (draws ++ later)
      = { g.walk draws with rest := (g.walk draws).rest ++ later } :=
    (Window.start g.space).walk_append g.table hended later
  rw [trial, trial, hwalk]
  dsimp only
  split <;> rfl

/-- **An outcome that is decided** is the same if further draws follow. -/
theorem attempt_append (accepts : Judge) (budget : Option Nat) (attempts : Nat) {draws : List Draw}
    (hdecided : (g.attempt accepts budget attempts draws).result ≠ .error .outOfDraws)
    (later : List Draw) :
    g.attempt accepts budget attempts (draws ++ later)
      = { g.attempt accepts budget attempts draws with
          rest := (g.attempt accepts budget attempts draws).rest ++ later } := by
  -- the draws that are left over get fewer with each attempt
  induction hlength : draws.length using Nat.strong_induction_on generalizing attempts draws with
  | h length ih =>
      rw [g.attempt_eq] at hdecided
      rw [g.attempt_eq, g.attempt_eq accepts budget attempts draws]
      by_cases hbudget : budget.any (· ≤ attempts)
      · rw [if_pos hbudget, if_pos hbudget]
      · rw [if_neg hbudget] at hdecided ⊢
        rw [if_neg hbudget]
        have htrial : (g.trial draws).word ≠ .error .outOfDraws := by
          intro hword
          simp only [hword] at hdecided
          exact hdecided rfl
        rw [trial_append htrial later]
        cases hword : (g.trial draws).word with
        | error fault => rfl
        | ok word =>
            have hlt := hlength ▸ length_rest_trial_lt hword
            simp only [hword] at hdecided
            by_cases hknown : g.knows word = true
            · simp only [hknown, if_true] at hdecided ⊢
              exact ih _ hlt _ hdecided rfl
            · simp only [hknown] at hdecided ⊢
              cases haccepts : accepts word with
              | error fault => rfl
              | ok accepted =>
                  cases accepted with
                  | true => rfl
                  | false =>
                      simp only [haccepts] at hdecided
                      exact ih _ hlt _ hdecided rfl

/-- So it is with one word, -/
theorem generate_append (accepts : Judge) (budget : Option Int) {draws : List Draw}
    (hdecided : (g.generate accepts budget draws).result ≠ .error .outOfDraws) (later : List Draw) :
    g.generate accepts budget (draws ++ later)
      = { g.generate accepts budget draws with
          rest := (g.generate accepts budget draws).rest ++ later } := by
  rw [generate] at hdecided ⊢
  rw [generate]
  split
  · rfl
  · next hbudget =>
    rw [if_neg hbudget] at hdecided
    exact attempt_append accepts _ 0 hdecided later

/-- and with **several words**. -/
theorem generateMany_append (accepts : Judge) (budget : Option Int) (count : Nat) {draws : List Draw}
    (hdecided : (g.generateMany accepts budget count draws).fault ≠ some .outOfDraws)
    (later : List Draw) :
    g.generateMany accepts budget count (draws ++ later)
      = { g.generateMany accepts budget count draws with
          rest := (g.generateMany accepts budget count draws).rest ++ later } := by
  induction count generalizing draws with
  | zero => rfl
  | succ count ih =>
      rw [generateMany] at hdecided ⊢
      rw [generateMany]
      have hfirst : (g.generate accepts budget draws).result ≠ .error .outOfDraws := by
        intro hresult
        simp only [hresult] at hdecided
        exact hdecided rfl
      rw [generate_append accepts budget hfirst later]
      cases hresult : (g.generate accepts budget draws).result with
      | error fault => rfl
      | ok found =>
          simp only [hresult] at hdecided ⊢
          rw [ih hdecided]

/-! ## (3) Fewer words -/

/-- No more words are found than were asked for. -/
theorem length_found_le (g : Generator) (accepts : Judge) (budget : Option Int) (count : Nat)
    (draws : List Draw) : (g.generateMany accepts budget count draws).found.length ≤ count := by
  induction count generalizing draws with
  | zero => exact Nat.le_refl 0
  | succ count ih =>
      rw [generateMany]
      split
      · exact Nat.zero_le _
      · exact Nat.succ_le_succ (ih _)

/-- **Nothing goes wrong** exactly if as many words are found as were asked for. -/
theorem fault_eq_none_iff (g : Generator) (accepts : Judge) (budget : Option Int) (count : Nat)
    (draws : List Draw) :
    (g.generateMany accepts budget count draws).fault = none
      ↔ (g.generateMany accepts budget count draws).found.length = count := by
  induction count generalizing draws with
  | zero => exact iff_of_true rfl rfl
  | succ count ih =>
      rw [generateMany]
      split
      · exact iff_of_false (Option.some_ne_none _) (Nat.succ_ne_zero _).symm
      · dsimp only
        rw [ih, List.length_cons, Nat.add_right_cancel_iff]

/-- **Who asks for fewer words** gets the first of them, -/
theorem found_generateMany_of_le (g : Generator) (accepts : Judge) (budget : Option Int)
    {count most : Nat} (hle : count ≤ most) (draws : List Draw) :
    (g.generateMany accepts budget count draws).found
      = (g.generateMany accepts budget most draws).found.take count := by
  induction count generalizing most draws with
  | zero => rfl
  | succ count ih =>
      obtain ⟨most, rfl⟩ := Nat.exists_eq_add_of_le' hle
      rw [← Nat.add_assoc, generateMany, generateMany]
      cases hresult : (g.generate accepts budget draws).result with
      | error fault => simp
      | ok found =>
          dsimp only
          rw [List.take_succ_cons, ih (Nat.le_add_left count most)]

/-- and something goes wrong only if it did before there were as many. -/
theorem fault_generateMany_of_le (g : Generator) (accepts : Judge) (budget : Option Int)
    {count most : Nat} (hle : count ≤ most) (draws : List Draw) :
    (g.generateMany accepts budget count draws).fault
      = if count ≤ (g.generateMany accepts budget most draws).found.length then none
        else (g.generateMany accepts budget most draws).fault := by
  induction count generalizing most draws with
  | zero => rfl
  | succ count ih =>
      obtain ⟨most, rfl⟩ := Nat.exists_eq_add_of_le' hle
      rw [← Nat.add_assoc, generateMany, generateMany]
      cases hresult : (g.generate accepts budget draws).result with
      | error fault => rfl
      | ok found =>
          dsimp only
          rw [ih (Nat.le_add_left count most)]
          simp only [List.length_cons, Nat.succ_le_succ_iff]

/-! ## (4) The words -/

/-- **A word that is generated** can be spelled, is not known, and is accepted. -/
theorem Embodies.result_generate (h : g.Embodies learned settled) {budget : Option Int}
    {found : Found} (hfound : (g.generate accepts budget draws).result = .ok found) :
    g.alphabet.Spells found.word ∧ found.word ∉ learned ∧ accepts found.word = .ok true := by
  rcases h.generate_cases accepts budget draws with hnone | hstops
  · cases hfound.symm.trans hnone
  · rw [hfound] at hstops
    cases hstops with
    | found walked _ hcomplete hword hnew haccepted =>
        refine ⟨hword ▸ h.spells_candidate hcomplete, fun hlearned => ?_, haccepted⟩
        exact Bool.false_ne_true (hnew.symm.trans ((h.knows_iff _).mpr hlearned))

/-- **So is every word of several.** -/
theorem Embodies.forall_mem_found (h : g.Embodies learned settled) (budget : Option Int) (count : Nat)
    (draws : List Draw) : ∀ found ∈ (g.generateMany accepts budget count draws).found,
      g.alphabet.Spells found.word ∧ found.word ∉ learned ∧ accepts found.word = .ok true := by
  induction count generalizing draws with
  | zero => exact fun _ hmem => nomatch hmem
  | succ count ih =>
      rw [generateMany]
      cases hresult : (g.generate accepts budget draws).result with
      | error fault => exact fun _ hmem => nomatch hmem
      | ok found =>
          intro other hmem
          rcases List.mem_cons.mp hmem with rfl | hmem
          · exact h.result_generate hresult
          · exact ih _ other hmem

/-- **What goes wrong is one of the ways in which trying walks stops**, if the budget allows an attempt. -/
theorem Embodies.stops_of_fault (h : g.Embodies learned settled) {budget : Option Int}
    (hbudget : ∀ attempts ∈ budget, 1 ≤ attempts) (count : Nat) (draws : List Draw)
    {fault : SampleFault} (hfault : (g.generateMany accepts budget count draws).fault = some fault) :
    g.Stops accepts (.error fault) := by
  induction count generalizing draws with
  | zero => cases hfault
  | succ count ih =>
      rw [generateMany] at hfault
      cases hresult : (g.generate accepts budget draws).result with
      | error first =>
          simp only [hresult, Option.some.injEq] at hfault
          rw [generate_of_one_le hbudget] at hresult
          rw [← hfault, ← hresult]
          exact h.stops_attempt accepts _ 0 draws
      | ok found =>
          simp only [hresult] at hfault
          exact ih _ hfault

end Generator
end Pseudoword
