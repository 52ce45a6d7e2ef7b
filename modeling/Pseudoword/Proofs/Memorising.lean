import Mathlib
import Pseudoword.Proofs.Candidates
import Pseudoword.Proofs.Moves

/-! # Models that only memorise

With as many slots as the longest word has letters, a context still shows the whole beginning of a word:
what is not a letter is an empty slot, and there are as many of these as letters are missing. So the rows of
the words settled form a tree, in which a walk follows the words that begin like it, and comes out with one
of them. All of these are known, and sampling passes over every candidate.

* **`ContextSpace.contextAt_of_le`** — the context at one of the first places of a word.
* **`Generator.mem_cellsOf_after_iff`** — what is seen in the row after some letters, told by the words that
  begin with them.
* **`Generator.Goes.memorises`** — how a walk ends, by induction on its steps.
* **`Generator.Embodies.usesUp_attempt`** — attempts are used up, by induction on their number.
* **`Generator.memorises_run`** — walks and sampling after any run whose words are short. -/

namespace Pseudoword

namespace ContextSpace

variable {s : ContextSpace} {codes codes' : List Nat} {place place' : Nat}

/-! ## (1) Contexts at the first places -/

/-- **The context at one of the first places** shows all letters before the place, behind empty slots. -/
theorem contextAt_of_le (hplace : place ≤ codes.length) (horder : place ≤ s.order) :
    s.contextAt codes place
      = List.replicate (s.order - place) none
        ++ (codes.take place).map fun code : Nat => some (code : Int) := by
  have hlength : ((codes.take place).map fun code : Nat => some (code : Int)).length = place := by
    rw [List.length_map, List.length_take_of_le hplace]
  rw [contextAt, rtake_replicate_append, hlength, List.rtake, hlength, Nat.sub_eq_zero_of_le horder,
    List.drop_zero]

/-- **Equal contexts at two of the first places mean equal letters before them**, and as many. -/
theorem take_eq_of_contextAt_eq (hplace : place ≤ codes.length) (hplace' : place' ≤ codes'.length)
    (horder : place ≤ s.order) (horder' : place' ≤ s.order)
    (h : s.contextAt codes place = s.contextAt codes' place') :
    codes.take place = codes'.take place' := by
  rw [contextAt_of_le hplace horder, contextAt_of_le hplace' horder'] at h
  -- the letters are what is left of a context without its empty slots
  have hletters : ∀ (count : Nat) (letters : List Nat),
      (List.replicate count none ++ letters.map fun code : Nat => some (code : Int)).filterMap id
        = letters.map fun code : Nat => (code : Int) := by
    intro count letters
    rw [List.filterMap_append, List.filterMap_map, List.filterMap_replicate_of_none rfl, List.nil_append]
    exact congrFun List.filterMap_eq_map' letters
  have heq := congrArg (List.filterMap id) h
  rw [hletters, hletters] at heq
  exact List.map_injective_iff.mpr Int.ofNat_injective heq

/-- What follows the beginning of a word: its next letter, or the end of the word. -/
theorem columnAt_append (earlier later : List Nat) :
    s.columnAt (earlier ++ later) earlier.length = later.headD s.endColumn := by
  cases later <;> simp [columnAt]

/-- Where the end of a word follows, nothing is left of the word. -/
theorem eq_of_columnAt_eq_endColumn (hstarts : codes <+: codes')
    (hletters : ∀ code ∈ codes', code < s.letters)
    (hcolumn : s.columnAt codes' codes.length = s.endColumn) : codes = codes' := by
  obtain ⟨left, rfl⟩ := hstarts
  rw [columnAt_append] at hcolumn
  cases left with
  | nil => exact (List.append_nil codes).symm
  | cons code left =>
      exact absurd hcolumn (Nat.ne_of_lt (hletters code (by simp)))

/-- Where a letter follows, the word goes on with it. -/
theorem concat_prefix_of_columnAt_eq {code : Nat} (hstarts : codes <+: codes') (hcode : code < s.letters)
    (hcolumn : s.columnAt codes' codes.length = code) : codes ++ [code] <+: codes' := by
  obtain ⟨left, rfl⟩ := hstarts
  rw [columnAt_append] at hcolumn
  cases left with
  | nil => exact absurd hcolumn.symm (Nat.ne_of_lt hcode)
  | cons first left =>
      obtain rfl : first = code := hcolumn
      exact ⟨left, (List.append_cons codes first left).symm⟩

end ContextSpace

namespace Generator

variable {g : Generator} {learned settled : List String} {word : String} {spelled : List Nat}
  {w : Window g.space} {draws : List Draw} {walk : Walk} {accepts : Judge}

/-! ## (2) The tree of words -/

/-- Letters with which a word begins are letters, and no more than the word has. -/
theorem lt_and_length_le_of_isPrefix {a : Alphabet} (hspells : a.Spells word)
    (hstarts : spelled <+: a.codesOf word) :
    (∀ code ∈ spelled, code < a.size) ∧ spelled.length ≤ word.length := by
  refine ⟨fun code hcode => a.codesOf_lt hspells.2 code (hstarts.subset hcode), ?_⟩
  rw [← a.length_codesOf]
  exact hstarts.length_le

/-- **What is seen in the row after letters with which a word begins**: what follows them in all words that
begin with them, if no word has more letters than there are slots. -/
theorem mem_cellsOf_after_iff {words : List String} (hspells : ∀ word ∈ words, g.alphabet.Spells word)
    (hshort : ∀ word ∈ words, word.length ≤ g.order)
    (hbegins : ∃ word ∈ words, spelled <+: g.alphabet.codesOf word) {column : Nat} :
    (((Window.start g.space).after spelled).row, column) ∈ g.cellsOf words ↔
      ∃ word ∈ words, spelled <+: g.alphabet.codesOf word
        ∧ g.space.columnAt (g.alphabet.codesOf word) spelled.length = column := by
  constructor
  · intro hcell
    obtain ⟨first, hfirst, hstart⟩ := hbegins
    obtain ⟨hletters, hlength⟩ := lt_and_length_le_of_isPrefix (hspells first hfirst) hstart
    obtain ⟨word, hword, hmem⟩ := List.mem_flatMap.mp hcell
    obtain ⟨place, hplace, hrow, hcolumn⟩ := ContextSpace.mem_spell_iff.mp hmem
    have horder : place ≤ g.space.order := by
      rw [g.alphabet.length_codesOf] at hplace
      exact hplace.trans (hshort word hword)
    -- the row is that of a place of the word, and both contexts show all letters before them
    rw [← List.take_length (l := spelled)] at hrow
    have htake := ContextSpace.take_eq_of_contextAt_eq hplace le_rfl horder
      (hlength.trans (hshort first hfirst)) (ContextSpace.contextAt_eq_of_row_eq
        (g.alphabet.codesOf_lt (hspells word hword).2) hletters hrow)
    rw [List.take_length] at htake
    have hsame : spelled.length = place := by rw [← htake, List.length_take_of_le hplace]
    exact ⟨word, hword, htake ▸ List.take_prefix place _, hsame ▸ hcolumn⟩
  · rintro ⟨word, hword, hstarts, hcolumn⟩
    refine List.mem_flatMap.mpr ⟨word, hword, ContextSpace.mem_spell_iff.mpr
      ⟨spelled.length, hstarts.length_le, ?_, hcolumn⟩⟩
    rw [← List.prefix_iff_eq_take.mp hstarts]

/-! ## (3) Walks along the tree -/

/-- **A walk follows the words that begin like it**, as long as no word settled has more letters than there
are slots: out of the window after letters with which one of them begins, it comes to the end of one of
them, or runs out of draws before it has more letters than there are slots. -/
theorem Goes.memorises (hgoes : g.Goes w draws walk) (h : g.Embodies learned settled)
    (hshort : ∀ word ∈ settled, word.length ≤ g.order)
    (hw : w = (Window.start g.space).after spelled)
    (hbegins : ∃ word ∈ settled, spelled <+: g.alphabet.codesOf word) :
    (walk.ending = .complete ∧ ∃ word ∈ settled, g.alphabet.codesOf word = spelled ++ walk.codes)
      ∨ (walk.ending = .outOfDraws ∧ spelled.length + draws.length ≤ g.order) := by
  -- on the steps of the walk: the letters so far stay the beginning of a word settled
  induction hgoes generalizing spelled with
  | outOfDraws =>
      obtain ⟨word, hword, hstarts⟩ := hbegins
      have hlength := (lt_and_length_le_of_isPrefix (h.spells_settled word hword) hstarts).2
      exact .inr ⟨rfl, hlength.trans (hshort word hword)⟩
  | dead hpick =>
      subst hw
      obtain ⟨word, hword, hstarts⟩ := hbegins
      have hcell := (mem_cellsOf_after_iff h.spells_settled hshort ⟨word, hword, hstarts⟩).mpr
        ⟨word, hword, hstarts, rfl⟩
      exact absurd hcell (h.samples.pick?_eq_none_iff.mp hpick _)
  | complete hpick =>
      subst hw
      obtain ⟨word, hword, hstarts, hcolumn⟩ :=
        (mem_cellsOf_after_iff h.spells_settled hshort hbegins).mp (h.samples.mem_of_pick? hpick)
      have hcodes := g.alphabet.codesOf_lt (h.spells_settled word hword).2
      refine .inl ⟨rfl, word, hword, ?_⟩
      rw [← ContextSpace.eq_of_columnAt_eq_endColumn hstarts hcodes hcolumn]
      exact (List.append_nil spelled).symm
  | @letter w u us code walk hpick hcode hrest ih =>
      subst hw
      obtain ⟨word, hword, hstarts, hcolumn⟩ :=
        (mem_cellsOf_after_iff h.spells_settled hshort hbegins).mp (h.samples.mem_of_pick? hpick)
      have hlonger := ContextSpace.concat_prefix_of_columnAt_eq hstarts hcode hcolumn
      rcases ih (Window.after_concat _ _ _).symm ⟨word, hword, hlonger⟩ with
        ⟨hcomplete, word', hword', hspelled⟩ | ⟨hopen, hlength⟩
      · refine .inl ⟨hcomplete, word', hword', ?_⟩
        rw [hspelled, Walk.codes_after (hrest.cells_ne_nil hcomplete), List.append_assoc,
          List.singleton_append]
      · refine .inr ⟨hopen, ?_⟩
        rw [List.length_append, List.length_singleton] at hlength
        rw [List.length_cons]
        omega

/-- **Walks from the start memorise**: with more draws than there are slots, or as soon as it is complete, a
walk spells a word settled; otherwise it has run out of draws. -/
theorem Embodies.walk_cases (h : g.Embodies learned settled) (hne : settled ≠ [])
    (hshort : ∀ word ∈ settled, word.length ≤ g.order) (draws : List Draw) :
    ((g.walk draws).ending = .complete ∧ g.candidate draws ∈ settled)
      ∨ ((g.walk draws).ending = .outOfDraws ∧ draws.length ≤ g.order) := by
  obtain ⟨first, hfirst⟩ := List.exists_mem_of_ne_nil settled hne
  have hstart : Window.start g.space = (Window.start g.space).after [] := rfl
  rcases (h.goes_start draws).memorises h hshort hstart ⟨first, hfirst, List.nil_prefix⟩ with
    ⟨hcomplete, word, hword, hcodes⟩ | ⟨hopen, hlength⟩
  · refine .inl ⟨hcomplete, ?_⟩
    rw [List.nil_append] at hcodes
    rwa [candidate, ← hcodes, g.alphabet.decode_codesOf (h.spells_settled word hword).2]
  · rw [List.length_nil, Nat.zero_add] at hlength
    exact .inr ⟨hopen, hlength⟩

/-! ## (4) Attempts along the tree -/

/-- **A complete walk has draws that make up its word**, and they come first. -/
theorem Embodies.exists_selects_of_complete (h : g.Embodies learned settled)
    (hcomplete : (g.walk draws).ending = .complete) :
    ∃ used, draws = used ++ (g.walk draws).rest ∧ g.Selects (g.candidate draws) used := by
  have hwords := (h.goes_start draws).candidatesFrom_of_complete hcomplete []
  rw [List.nil_append, ← candidate, ← candidates] at hwords
  obtain ⟨used, rest, hdraws, hs, -⟩ := h.exists_selects hwords
  have hrest := hs.rest_eq rest
  rw [← hdraws] at hrest
  exact ⟨used, hrest.symm ▸ hdraws, hs⟩

/-- A known candidate is passed over, whatever is asked of words. -/
theorem Selects.attempt_of_knows {used : List Draw} (hs : g.Selects word used)
    (h : g.Embodies learned settled) (hknown : g.knows word = true) {budget : Option Nat}
    {attempts : Nat} (hbudget : ¬ budget.any (· ≤ attempts)) (later : List Draw) :
    g.attempt accepts budget attempts (used ++ later)
      = g.attempt accepts budget (attempts + 1) later := by
  rw [h.attempt_of_complete _ hbudget (hs.complete later), hs.candidate_eq, hs.rest_eq, if_pos hknown]

/-- **Attempts are used up one after the other** if no word settled has more letters than there are slots:
each takes as many draws as a word settled has letters, and one. -/
theorem Embodies.usesUp_attempt (h : g.Embodies learned settled) (hne : settled ≠ [])
    (hshort : ∀ word ∈ settled, word.length ≤ g.order) (accepts : Judge) (attempts left : Nat)
    {draws : List Draw} (hdraws : left * (g.order + 1) ≤ draws.length) :
    ∃ count ≤ left * (g.order + 1),
      UsesUp (g.attempt accepts (some (attempts + left)) attempts) draws count fun later =>
        ⟨.error (.attemptsExhausted (attempts + left)), later⟩ := by
  induction left generalizing attempts draws with
  | zero =>
      refine ⟨0, Nat.zero_le _, [], draws, rfl, rfl, fun later => ?_⟩
      rw [List.nil_append, attempt, if_pos (by simp), Nat.add_zero]
  | succ left ih =>
      rw [Nat.succ_mul] at hdraws
      rcases h.walk_cases hne hshort draws with ⟨hcomplete, hsettled⟩ | ⟨-, hlength⟩
      · obtain ⟨first, hsplit, hs⟩ := h.exists_selects_of_complete hcomplete
        have hfirst : first.length ≤ g.order + 1 := by
          rw [hs.length_eq]
          exact Nat.succ_le_succ (hshort _ hsettled)
        have hrest : left * (g.order + 1) ≤ (g.walk draws).rest.length := by
          have hlength := congrArg List.length hsplit
          rw [List.length_append] at hlength
          omega
        obtain ⟨count, hcount, others, last, hothers, rfl, hlater⟩ := ih (attempts + 1) hrest
        have hknown := (h.knows_iff _).mpr (h.settled_subset hsettled)
        have htotal : attempts + (left + 1) = attempts + 1 + left := by omega
        have hbudget : ¬ (some (attempts + 1 + left)).any (· ≤ attempts) := by
          rw [Option.any_some, decide_eq_true_iff]
          omega
        refine ⟨(first ++ others).length, ?_, first ++ others, last, ?_, rfl, fun later => ?_⟩
        · rw [List.length_append, Nat.succ_mul]
          omega
        · rw [List.append_assoc, ← hothers]
          exact hsplit
        · rw [htotal, List.append_assoc, hs.attempt_of_knows h hknown hbudget, hlater later]
      · omega

/-- **No word is found** if every complete walk spells a word that is known. -/
theorem Embodies.generate_ne_found (h : g.Embodies learned settled) (hne : settled ≠ [])
    (hshort : ∀ word ∈ settled, word.length ≤ g.order) (accepts : Judge) (budget : Option Int)
    (draws : List Draw) (found : Found) : (g.generate accepts budget draws).result ≠ .ok found := by
  intro hfound
  rcases h.generate_cases accepts budget draws with hnone | hstops
  · cases hfound.symm.trans hnone
  · rw [hfound] at hstops
    cases hstops with
    | found walked _ hcomplete hword hnew _ =>
        rcases h.walk_cases hne hshort walked with ⟨-, hsettled⟩ | ⟨hopen, -⟩
        · rw [← hword] at hsettled
          exact Bool.false_ne_true
            (hnew.symm.trans ((h.knows_iff _).mpr (h.settled_subset hsettled)))
        · cases hcomplete.symm.trans hopen

/-! ## (5) Every run -/

/-- **A model with too many slots only memorises, after any run** that learned a word before the last
compilation, none of them with more letters than there are slots. Whatever the draws are, a walk spells one
of these words with as many draws as it has letters and one, unless there are no more draws than slots and
it runs out of them. So no word is ever found; and if a budget is given, all of its attempts are used up on
a first part of the draws, as soon as there are as many as slots and one for each attempt. -/
theorem memorises_run (alphabet : Alphabet) (order : Nat) (order_pos : 0 < order) (patience : Setting)
    (operations : List Operation)
    (hsettled : (untrained alphabet order order_pos patience).settledIn operations ≠ [])
    (hshort : ∀ word ∈ (untrained alphabet order order_pos patience).settledIn operations,
      word.length ≤ order) :
    let blank := untrained alphabet order order_pos patience
    let g := blank.run operations
    (∀ draws,
        ((g.walk draws).ending = .complete
          ∧ ∃ word ∈ blank.settledIn operations, g.wordOf (g.walk draws) = .ok word
            ∧ ∃ used, draws = used ++ (g.walk draws).rest ∧ used.length = word.length + 1
              ∧ used.length ≤ order + 1)
          ∨ ((g.walk draws).ending = .outOfDraws ∧ draws.length ≤ order))
      ∧ (∀ accepts budget draws found, (g.generate accepts budget draws).result ≠ .ok found)
      ∧ ∀ accepts (most : Nat), 1 ≤ most → ∀ draws : List Draw, most * (order + 1) ≤ draws.length →
        ∃ count ≤ most * (order + 1), UsesUp (g.generate accepts (some most)) draws count fun later =>
          ⟨.error (.attemptsExhausted most), later⟩ := by
  intro blank g
  have h : g.Embodies (blank.learnedIn operations) (blank.settledIn operations) :=
    embodies_run alphabet order order_pos patience operations
  have horder : g.order = order := (sameMake_run blank operations).order_eq
  have hshort' : ∀ word ∈ blank.settledIn operations, word.length ≤ g.order := horder.symm ▸ hshort
  refine ⟨fun draws => ?_, h.generate_ne_found hsettled hshort', fun accepts most hone draws hdraws => ?_⟩
  · rcases h.walk_cases hsettled hshort' draws with ⟨hcomplete, hword⟩ | ⟨hopen, hlength⟩
    · obtain ⟨used, hused, hs⟩ := h.exists_selects_of_complete hcomplete
      have hlength : used.length ≤ order + 1 := by
        rw [hs.length_eq]
        exact Nat.succ_le_succ (hshort _ hword)
      exact .inl ⟨hcomplete, _, hword, h.wordOf_walk hcomplete, used, hused, hs.length_eq, hlength⟩
    · exact .inr ⟨hopen, horder ▸ hlength⟩
  · rw [← horder] at hdraws
    obtain ⟨count, hcount, hused⟩ := h.usesUp_attempt hsettled hshort' accepts 0 most hdraws
    rw [horder] at hcount
    have hbudget : ∀ given ∈ some (most : Int), 1 ≤ given := by
      intro given hgiven
      obtain rfl := Option.mem_some.mp hgiven
      omega
    refine ⟨count, hcount, ?_⟩
    have hgenerate : g.generate accepts (some most) = g.attempt accepts (some (0 + most)) 0 := by
      funext draws
      rw [generate_of_one_le hbudget, Option.map_some, Int.toNat_natCast, Nat.zero_add]
    rw [hgenerate]
    simpa using hused

/-- Of the words `AB`, `AB` and `BAA`, three slots leave nothing to make but these, although the last of them
has three letters: two attempts are used up on eight draws or fewer. -/
theorem memorises_mixedRun :
    let g := (untrained .ofAB 3 (by decide) (.integer 1000)).run mixedRun
    (∀ draws found, (g.generate (judgeOf fun _ => true) none draws).result ≠ .ok found)
      ∧ ∃ count ≤ 8, UsesUp (g.generate (judgeOf fun _ => true) (some 2))
        (List.replicate 8 .negative) count fun later => ⟨.error (.attemptsExhausted 2), later⟩ := by
  intro g
  have hsettled : (untrained .ofAB 3 (by decide) (.integer 1000)).settledIn mixedRun
      = ["AB", "AB", "BAA"] := by decide +kernel
  obtain ⟨-, hnone, hexhausted⟩ := memorises_run .ofAB 3 (by decide) (.integer 1000) mixedRun
    (by rw [hsettled]; exact List.cons_ne_nil _ _) (by rw [hsettled]; decide)
  exact ⟨hnone _ none, hexhausted _ 2 (by decide) _ (by decide)⟩

end Generator
end Pseudoword
