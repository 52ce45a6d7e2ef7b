import Mathlib
import Pseudoword.Proofs.Walks

/-! # What is generated

Sampling tries walk after walk, and the last one decides how it stops. As every walk stays within the
cells of words settled, so does a word that is generated; and for the same reason a word is never out
of reach once one is settled.

* **`Generator.Stops g accepts result`** — how trying walks may stop.
* **`Generator.Embodies.attempt_of_complete`** — one attempt, without its checks.
* **`Generator.result_generate_run`** — what holds of a word generated after any run.
* **`Generator.dead_generate_run`** — when sampling finds nothing to go on with, after any run. -/

namespace Pseudoword.Generator

variable {g : Generator} {learned settled : List String} {accepts : Judge}

/-! ## (1) How sampling stops -/

/-- A budget that is given leaves an attempt as long as fewer were made. -/
theorem not_any_le_iff {budget : Option Int} {attempts : Nat} :
    ¬ (budget.map Int.toNat).any (· ≤ attempts) ↔ ∀ most ∈ budget, (attempts : Int) < most := by
  cases budget with
  | none => simp
  | some most => simp

/-- **Sampling tries walks**, unless its budget allows no attempt. -/
theorem generate_of_one_le {budget : Option Int} (hbudget : ∀ most ∈ budget, 1 ≤ most)
    (draws : List Draw) :
    g.generate accepts budget draws = g.attempt accepts (budget.map Int.toNat) 0 draws := by
  refine if_neg fun hany => ?_
  obtain ⟨most, hmost, hlt⟩ := (Option.any_eq_true _ _).mp hany
  exact absurd (hbudget most hmost) (not_le.mpr (of_decide_eq_true hlt))

/-- **How trying walks may stop**, told by the walk that came last. No check of the library is among
the reasons. -/
inductive Stops (g : Generator) (accepts : Judge) : Except SampleFault Found → Prop where
  /-- The budget is used up. -/
  | exhausted (attempts : Nat) : Stops g accepts (.error (.attemptsExhausted attempts))
  /-- The draws are used up. -/
  | outOfDraws : Stops g accepts (.error .outOfDraws)
  /-- The walk came to a dead row. -/
  | dead (draws : List Draw) (row : Nat) (hdead : (g.walk draws).ending = .dead row) :
    Stops g accepts (.error (.deadState row))
  /-- Nothing can be told of the candidate. -/
  | unjudged (fault : Pattern.MatchFault) : Stops g accepts (.error (.unjudged fault))
  /-- There is a word, but attempts cannot be compared with the patience. -/
  | incomparable (patience : Setting) : Stops g accepts (.error (.incomparable patience))
  /-- The candidate is new and accepted. -/
  | found (draws : List Draw) (found : Found) (hcomplete : (g.walk draws).ending = .complete)
      (hword : found.word = g.candidate draws) (hnew : g.knows found.word = false)
      (haccepted : accepts found.word = .ok true) :
    Stops g accepts (.ok found)

/-- **A word is found** as it is, unless attempts cannot be compared with the patience. -/
theorem found_cases (g : Generator) (word : String) (attempts : Nat) :
    g.found word attempts = .error (.incomparable g.patience)
      ∨ ∃ slow, g.found word attempts = .ok ⟨word, attempts, slow⟩ := by
  rw [Generator.found]
  split
  · exact .inl rfl
  · next slow _ => exact .inr ⟨slow, rfl⟩

/-- **One attempt whose walk is complete**: only the candidate decides. -/
theorem Embodies.attempt_of_complete (h : g.Embodies learned settled) (accepts : Judge)
    {budget : Option Nat} {attempts : Nat} (hbudget : ¬ budget.any (· ≤ attempts))
    {draws : List Draw} (hcomplete : (g.walk draws).ending = .complete) :
    g.attempt accepts budget attempts draws =
      if g.knows (g.candidate draws) then
        g.attempt accepts budget (attempts + 1) (g.walk draws).rest
      else match accepts (g.candidate draws) with
        | .error fault => ⟨.error (.unjudged fault), (g.walk draws).rest⟩
        | .ok true => ⟨g.found (g.candidate draws) (attempts + 1), (g.walk draws).rest⟩
        | .ok false => g.attempt accepts budget (attempts + 1) (g.walk draws).rest := by
  have hword := h.wordOf_walk hcomplete
  conv_lhs => rw [attempt, if_neg hbudget]
  dsimp only
  split
  · next hending => cases hcomplete.symm.trans hending
  · next hending => cases hcomplete.symm.trans hending
  · next hending => cases hcomplete.symm.trans hending
  · cases haccepts : accepts (g.candidate draws) with
    | error fault => simp only [hword, haccepts]
    | ok accepted => cases accepted <;> simp only [hword, haccepts]

/-- One attempt whose walk comes to a dead row. -/
theorem attempt_of_dead {budget : Option Nat} {attempts : Nat}
    (hbudget : ¬ budget.any (· ≤ attempts)) {draws : List Draw} {row : Nat}
    (hdead : (g.walk draws).ending = .dead row) :
    g.attempt accepts budget attempts draws = ⟨.error (.deadState row), (g.walk draws).rest⟩ := by
  rw [attempt, if_neg hbudget]
  dsimp only
  split
  · next hending => cases hdead.symm.trans hending
  · next row' hending =>
    obtain rfl := Walk.Ending.dead.inj (hdead.symm.trans hending)
    rfl
  · next hending => cases hdead.symm.trans hending
  · next hending => cases hdead.symm.trans hending

/-- **Trying walks stops in one of these ways**, whatever the draws are. -/
theorem Embodies.stops_attempt (h : g.Embodies learned settled) (accepts : Judge)
    (budget : Option Nat) (attempts : Nat) (draws : List Draw) :
    g.Stops accepts (g.attempt accepts budget attempts draws).result := by
  fun_induction attempt g accepts budget attempts draws with
  | case1 attempts draws _ => exact .exhausted attempts
  | case2 attempts draws _ walk _ => exact .outOfDraws
  | case3 attempts draws _ walk row hdead => exact .dead draws row hdead
  | case4 attempts draws _ walk fault hbroken =>
      exact absurd hbroken ((h.goes_start draws).ending_ne_broken fault)
  | case5 attempts draws _ walk hcomplete _ fault hword =>
      cases (h.wordOf_walk hcomplete).symm.trans hword
  | case6 attempts draws _ walk _ _ word _ _ ih => exact ih
  | case7 attempts draws _ walk _ _ word _ _ fault _ => exact .unjudged fault
  | case8 attempts draws _ walk hcomplete _ word hword hnew haccepted =>
      obtain rfl := Except.ok.inj ((h.wordOf_walk hcomplete).symm.trans hword)
      rcases g.found_cases (g.candidate draws) (attempts + 1) with hfound | ⟨slow, hfound⟩
      · rw [hfound]
        exact .incomparable g.patience
      · rw [hfound]
        exact .found draws _ hcomplete rfl (Bool.eq_false_of_not_eq_true hnew) haccepted
  | case9 attempts draws _ walk _ _ word _ _ _ ih => exact ih

/-- Sampling stops like this, too, unless its budget allows no attempt. -/
theorem Embodies.generate_cases (h : g.Embodies learned settled) (accepts : Judge)
    (budget : Option Int) (draws : List Draw) :
    (g.generate accepts budget draws).result = .error .noAttempts
      ∨ g.Stops accepts (g.generate accepts budget draws).result := by
  by_cases hbudget : budget.any (· < 1)
  · rw [generate, if_pos hbudget]
    exact .inl rfl
  · rw [generate, if_neg hbudget]
    exact .inr (h.stops_attempt accepts _ 0 draws)

/-- Whether a word is found can be told by looking for one. -/
theorem Sample.result_eq_ok {sample : Sample} {found : Found}
    (h : sample.result.toOption = some found) : sample.result = .ok found := by
  cases hresult : sample.result with
  | error fault =>
      rw [hresult] at h
      cases h
  | ok other =>
      rw [hresult] at h
      exact congrArg Except.ok (Option.some.inj h)

/-! ## (2) Words that are generated -/

/-- **No word settled ends where it starts**: the end of a word was not seen in the first row. -/
theorem Embodies.not_mem_cellsOf_start_end (h : g.Embodies learned settled) :
    (g.space.startRow, g.space.endColumn) ∉ g.cellsOf settled := by
  intro hcell
  obtain ⟨word, hword, hmem⟩ := List.mem_flatMap.mp hcell
  have hspells := h.spells word (h.settled_subset hword)
  have hcodes := g.alphabet.codesOf_lt hspells.2
  obtain ⟨place, hplace, hrow, hcolumn⟩ := ContextSpace.mem_spell_iff.mp hmem
  -- the end is a column at the last place only
  obtain rfl : place = (g.alphabet.codesOf word).length := by
    by_contra hne
    have hlt := Nat.lt_of_le_of_ne hplace hne
    rw [g.space.columnAt_of_lt hlt] at hcolumn
    exact Nat.ne_of_lt (hcodes _ (List.getElem_mem hlt)) hcolumn
  -- a word has a letter, and the last one is in the context before the end
  obtain ⟨last, hlast⟩ := Nat.exists_eq_succ_of_ne_zero
    (List.length_pos_iff.mpr (g.alphabet.codesOf_ne_nil hspells)).ne'
  have hcontext : g.space.contextAt (g.alphabet.codesOf word) (g.alphabet.codesOf word).length
      = g.space.contextAt [] 0 :=
    ContextSpace.contextAt_eq_of_row_eq hcodes (fun code hcode => nomatch hcode) hrow
  have hlt : last < (g.alphabet.codesOf word).length := by omega
  have hletter := g.space.mem_contextAt_succ hlt
  rw [← Nat.succ_eq_add_one, ← hlast, hcontext, g.space.contextAt_zero] at hletter
  cases List.eq_of_mem_replicate hletter

/-- **Words of complete walks can be spelled.** -/
theorem Embodies.spells_candidate (h : g.Embodies learned settled) {draws : List Draw}
    (hcomplete : (g.walk draws).ending = .complete) : g.alphabet.Spells (g.candidate draws) := by
  refine ⟨fun hempty => ?_, fun c hc => g.alphabet.mem_letters_of_mem_decode hc⟩
  have hcells := h.cells_walk_eq_spell hcomplete
  have hseen := (h.goes_start draws).mem_cellsOf h (g.space.startRow, g.space.endColumn)
  rw [hcells, hempty] at hseen
  exact h.not_mem_cellsOf_start_end (hseen (List.mem_singleton_self _))

/-- **Every place of a complete walk's word was seen** at a place of a word settled. -/
theorem Embodies.exists_place_of_candidate (h : g.Embodies learned settled) {draws : List Draw}
    (hcomplete : (g.walk draws).ending = .complete) {place : Nat}
    (hplace : place ≤ (g.candidate draws).length) :
    ∃ word ∈ settled, ∃ place' ≤ word.length,
      g.space.contextAt (g.alphabet.codesOf word) place'
          = g.space.contextAt (g.alphabet.codesOf (g.candidate draws)) place
        ∧ g.space.columnAt (g.alphabet.codesOf word) place'
          = g.space.columnAt (g.alphabet.codesOf (g.candidate draws)) place := by
  have hcodes := g.alphabet.codesOf_lt (h.spells_candidate hcomplete).2
  rw [← g.alphabet.length_codesOf] at hplace
  have hcells := h.cells_walk_eq_spell hcomplete
  set codes := g.alphabet.codesOf (g.candidate draws)
  have hcell : (((Window.start g.space).after (codes.take place)).row, g.space.columnAt codes place)
      ∈ (g.walk draws).cells := by
    rw [hcells]
    exact ContextSpace.mem_spell_iff.mpr ⟨place, hplace, rfl, rfl⟩
  have hseen := (h.goes_start draws).mem_cellsOf h _ hcell
  obtain ⟨word, hword, hmem⟩ := List.mem_flatMap.mp hseen
  have hwordCodes := g.alphabet.codesOf_lt (h.spells word (h.settled_subset hword)).2
  obtain ⟨place', hplace', hrow, hcolumn⟩ := ContextSpace.mem_spell_iff.mp hmem
  rw [g.alphabet.length_codesOf] at hplace'
  exact ⟨word, hword, place', hplace', ContextSpace.contextAt_eq_of_row_eq hwordCodes hcodes hrow,
    hcolumn⟩

/-- **What holds of a word generated after any run**, whatever the draws, the judge and the budget: it
can be spelled, it was never learned, it is accepted, and at each of its places the context and what
follows it are those of a place of a word learned before the last compilation. -/
theorem result_generate_run (alphabet : Alphabet) (order : Nat) (order_pos : 0 < order)
    (patience : Setting) (operations : List Operation) (accepts : Judge) (budget : Option Int)
    (draws : List Draw) (found : Found)
    (hfound : (((untrained alphabet order order_pos patience).run operations).generate accepts budget
      draws).result = .ok found) :
    let space := contexts alphabet order order_pos
    let blank := untrained alphabet order order_pos patience
    let codes := alphabet.codesOf found.word
    alphabet.Spells found.word
      ∧ (blank.run operations).knows found.word = false
      ∧ found.word ∉ blank.learnedIn operations
      ∧ accepts found.word = .ok true
      ∧ ∀ place ≤ found.word.length, ∃ word ∈ blank.settledIn operations, ∃ place' ≤ word.length,
          space.contextAt (alphabet.codesOf word) place' = space.contextAt codes place
            ∧ space.columnAt (alphabet.codesOf word) place' = space.columnAt codes place := by
  intro space blank codes
  set g := blank.run operations
  have h : g.Embodies (blank.learnedIn operations) (blank.settledIn operations) :=
    embodies_run alphabet order order_pos patience operations
  have hmake : blank.SameMake g := sameMake_run blank operations
  have hspace : g.space = space := hmake.space_eq
  have halphabet : g.alphabet = alphabet := hmake.alphabet_eq
  rcases h.generate_cases accepts budget draws with hnone | hstops
  · cases hfound.symm.trans hnone
  · rw [hfound] at hstops
    cases hstops with
    | found walked _ hcomplete hword hnew haccepted =>
        have hspells := h.spells_candidate hcomplete
        have hplaces := fun place (hplace : place ≤ (g.candidate walked).length) =>
          h.exists_place_of_candidate hcomplete hplace
        rw [← hword, halphabet] at hspells
        rw [← hword, halphabet, hspace] at hplaces
        refine ⟨hspells, hnew, fun hlearned => ?_, haccepted, hplaces⟩
        exact Bool.false_ne_true (hnew.symm.trans ((h.knows_iff _).mpr hlearned))

/-- Of the words `AB`, `AB` and `BAA`, draws of one make the word `B`, which was not learned: it starts
like the last of them and ends like the others. -/
theorem result_generate_mixedRun :
    let blank := untrained .ofAB 1 Nat.one_pos (.integer 1000)
    ((blank.run mixedRun).generate (fun _ => .ok true) none
        [.level Binary64.one, .level Binary64.one]).result = .ok ⟨"B", 1, false⟩
      ∧ Alphabet.ofAB.Spells "B" ∧ "B" ∉ blank.learnedIn mixedRun := by
  intro blank
  have hfound : ((blank.run mixedRun).generate (fun _ => .ok true) none
      [.level Binary64.one, .level Binary64.one]).result = .ok ⟨"B", 1, false⟩ :=
    Sample.result_eq_ok (by decide +kernel)
  obtain ⟨hspells, -, hnew, -⟩ := result_generate_run .ofAB 1 Nat.one_pos (.integer 1000) mixedRun
    (fun _ => .ok true) none _ _ hfound
  exact ⟨hfound, hspells, hnew⟩

/-! ## (3) Rows out of which nothing leads -/

/-- **When sampling comes to a dead row, after any run**: never, whatever the draws are, once a word was
learned before the last compilation; otherwise at once, with the first draw and at the start. No check
of the library fails either way. -/
theorem dead_generate_run (alphabet : Alphabet) (order : Nat) (order_pos : 0 < order)
    (patience : Setting) (operations : List Operation) (accepts : Judge) (budget : Option Int) :
    let blank := untrained alphabet order order_pos patience
    let g := blank.run operations
    (blank.settledIn operations ≠ [] → ∀ draws row,
        (g.generate accepts budget draws).result ≠ .error (.deadState row))
      ∧ (∀ draws fault, (g.generate accepts budget draws).result ≠ .error (.internal fault))
      ∧ (blank.settledIn operations = [] → (∀ attempts ∈ budget, 1 ≤ attempts) → ∀ u us,
        g.generate accepts budget (u :: us)
          = ⟨.error (.deadState (contexts alphabet order order_pos).startRow), us⟩) := by
  intro blank g
  have h : g.Embodies (blank.learnedIn operations) (blank.settledIn operations) :=
    embodies_run alphabet order order_pos patience operations
  have hmake : blank.SameMake g := sameMake_run blank operations
  refine ⟨fun hsettled draws row hresult => ?_, fun draws fault hresult => ?_,
    fun hsettled hbudget u us => ?_⟩
  · rcases h.generate_cases accepts budget draws with hnone | hstops
    · cases hresult.symm.trans hnone
    · rw [hresult] at hstops
      cases hstops with
      | dead walked _ hdead => exact h.ending_walk_start_ne_dead hsettled walked row hdead
  · rcases h.generate_cases accepts budget draws with hnone | hstops
    · cases hresult.symm.trans hnone
    · rw [hresult] at hstops
      cases hstops
  · have hwalk := (hsettled ▸ h).walk_of_not_settled u us
    rw [hmake.space_eq] at hwalk
    have hfirst : ∀ attempts ∈ budget, ((0 : Nat) : Int) < attempts := hbudget
    rw [generate_of_one_le hbudget, attempt_of_dead (not_any_le_iff.mpr hfirst) (by rw [hwalk]),
      hwalk]
    rfl

/-- Of a run with words settled and one without, only the second makes sampling end in a dead row. -/
theorem dead_generate_mixedRun :
    let blank := untrained .ofAB 2 Nat.two_pos (.integer 1000)
    (∀ draws row, ((blank.run mixedRun).generate (fun _ => .ok true) none draws).result
        ≠ .error (.deadState row))
      ∧ ∀ u us, (blank.run [.train "AB"]).generate (fun _ => .ok true) (some 1) (u :: us)
          = ⟨.error (.deadState 8), us⟩ := by
  intro blank
  have hsettled : blank.settledIn mixedRun ≠ [] := by decide +kernel
  have hunsettled : blank.settledIn [.train "AB"] = [] := by decide +kernel
  refine ⟨(dead_generate_run .ofAB 2 Nat.two_pos (.integer 1000) mixedRun (fun _ => .ok true)
    none).1 hsettled, ?_⟩
  exact (dead_generate_run .ofAB 2 Nat.two_pos (.integer 1000) [.train "AB"] (fun _ => .ok true)
    (some 1)).2.2 hunsettled (by decide)

end Pseudoword.Generator
