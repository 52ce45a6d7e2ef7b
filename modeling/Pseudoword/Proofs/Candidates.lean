import Mathlib
import Pseudoword.Proofs.Generating

/-! # Sampling as a search among candidates

A run of draws can be cut into candidates without regard to budgets, judges or what was learned: each
draw selects a column, and after every end the next word starts anew. This file proves that sampling
with a predicate is nothing but the search for the first candidate that is new and accepted, and that
it uses up the draws of the candidates up to that one, and no others.

* **`Generator.candidates draws`** — the words that draws spell, one after the other.
* **`Generator.Selects word used`** — draws that make up a candidate, whatever comes after them.
* **`Generator.UsesUp`** — an outcome that depends on a first part of the draws alone.
* **`Generator.generate_run_eq_first`** — sampling after any run, as a search. -/

namespace Pseudoword.Generator

/-! ## (1) Candidates -/

/-- **The candidates that draws spell**, from a window on and after some letters: every draw selects a
column, and once it is the end, the next candidate starts from the empty context. -/
def candidatesFrom (g : Generator) (w : Window g.space) (spelled : List Nat) :
    List Draw → List String
  | [] => []
  | u :: us =>
    match g.table.pick? w.row u with
    | none => []
    | some column =>
      if column = g.space.endColumn then
        g.alphabet.decode spelled :: g.candidatesFrom (Window.start g.space) [] us
      else g.candidatesFrom (w.shift column) (spelled ++ [column]) us

/-- **The candidates that draws spell**, one after the other, as far as they are complete. -/
def candidates (g : Generator) (draws : List Draw) : List String :=
  g.candidatesFrom (Window.start g.space) [] draws

/-- How many draws candidates take: one for each letter, and one for each end. -/
def spent (words : List String) : Nat :=
  (words.map fun word => word.length + 1).sum

/-- The judge that asks a predicate. -/
def judgeOf (p : String → Bool) : Judge :=
  fun word => .ok (p word)

/-- **A candidate that may be found**: it was not learned, and the predicate is true of it. -/
def qualifies (g : Generator) (p : String → Bool) (word : String) : Bool :=
  !g.knows word && p word

/-- **Draws that make up a candidate**: a walk that begins with them spells it, and is complete as soon
as they are used up. -/
structure Selects (g : Generator) (word : String) (used : List Draw) : Prop where
  /-- There is a draw for each letter and one for the end. -/
  length_eq : used.length = word.length + 1
  /-- The walk is complete. -/
  complete : ∀ later, (g.walk (used ++ later)).ending = .complete
  /-- The walk spells the word. -/
  candidate_eq : ∀ later, g.candidate (used ++ later) = word
  /-- The walk leaves over what comes after. -/
  rest_eq : ∀ later, (g.walk (used ++ later)).rest = later

/-- **A first part of the draws decides**: an outcome is reached as soon as a number of draws is used up,
and it depends on what comes after them only in that this is left over. -/
def UsesUp {α : Type} (sample : List Draw → α) (draws : List Draw) (count : Nat)
    (outcome : List Draw → α) : Prop :=
  ∃ used rest, draws = used ++ rest ∧ used.length = count
    ∧ ∀ later, sample (used ++ later) = outcome later

@[simp] theorem spent_nil : spent [] = 0 := rfl

@[simp] theorem spent_cons (word : String) (words : List String) :
    spent (word :: words) = word.length + 1 + spent words := by
  rw [spent, List.map_cons, List.sum_cons, spent]

theorem spent_append (words words' : List String) :
    spent (words ++ words') = spent words + spent words' := by
  rw [spent, List.map_append, List.sum_append, spent, spent]

variable {g : Generator} {learned settled : List String} {p : String → Bool} {word : String}
  {used draws : List Draw} {w : Window g.space} {walk : Walk}

/-! ## (2) Walks do not look ahead -/

/-- **A complete walk depends on the draws that it used up alone**, one for each cell. -/
theorem Goes.exists_used (hgoes : g.Goes w draws walk) (hcomplete : walk.ending = .complete) :
    ∃ used, draws = used ++ walk.rest ∧ used.length = walk.cells.length
      ∧ ∀ later, g.Goes w (used ++ later) { walk with rest := later } := by
  induction hgoes with
  | outOfDraws => cases hcomplete
  | dead => cases hcomplete
  | @complete w u us hpick => exact ⟨[u], rfl, rfl, fun later => .complete hpick⟩
  | @letter w u us code walk hpick hcode _ ih =>
      obtain ⟨used, hused, hlength, hlater⟩ := ih hcomplete
      exact ⟨u :: used, congrArg (u :: ·) hused, congrArg (· + 1) hlength,
        fun later => .letter hpick hcode (hlater later)⟩

/-- **A walk that is complete spells the first candidate**, and the others come from what it leaves
over. -/
theorem Goes.candidatesFrom_of_complete (hgoes : g.Goes w draws walk)
    (hcomplete : walk.ending = .complete) (spelled : List Nat) :
    g.candidatesFrom w spelled draws
      = g.alphabet.decode (spelled ++ walk.codes) :: g.candidates walk.rest := by
  induction hgoes generalizing spelled with
  | outOfDraws => cases hcomplete
  | dead => cases hcomplete
  | complete hpick =>
      rw [candidatesFrom, hpick]
      simp [Walk.codes, candidates]
  | @letter w u us code walk hpick hcode hrest ih =>
      rw [candidatesFrom, hpick, Walk.codes_after (hrest.cells_ne_nil hcomplete), List.append_cons]
      simp only [if_neg (Nat.ne_of_lt hcode : code ≠ g.space.endColumn)]
      exact ih hcomplete (spelled ++ [code])

/-- Without a complete walk there is no candidate. -/
theorem Goes.candidatesFrom_of_not_complete (hgoes : g.Goes w draws walk)
    (hcomplete : walk.ending ≠ .complete) (spelled : List Nat) :
    g.candidatesFrom w spelled draws = [] := by
  induction hgoes generalizing spelled with
  | outOfDraws => rfl
  | dead hpick => rw [candidatesFrom, hpick]
  | complete => exact absurd rfl hcomplete
  | @letter w u us code walk hpick hcode _ ih =>
      rw [candidatesFrom, hpick]
      simp only [if_neg (Nat.ne_of_lt hcode : code ≠ g.space.endColumn)]
      exact ih hcomplete (spelled ++ [code])

/-- **Draws with a candidate begin with those that make it up**; the rest spells the others. -/
theorem Embodies.exists_selects (h : g.Embodies learned settled) {draws : List Draw}
    {word : String} {words : List String} (hwords : g.candidates draws = word :: words) :
    ∃ used rest, draws = used ++ rest ∧ g.Selects word used ∧ g.candidates rest = words := by
  -- there is a candidate, so that the first walk is complete
  have hcomplete : (g.walk draws).ending = .complete := by
    by_contra hnot
    rw [candidates, (h.goes_start draws).candidatesFrom_of_not_complete hnot] at hwords
    cases hwords
  have hfirst := (h.goes_start draws).candidatesFrom_of_complete hcomplete []
  rw [← candidates, hwords, List.nil_append] at hfirst
  obtain ⟨hword, hrest⟩ := List.cons.inj hfirst
  -- the draws that this walk uses up lead to the same walk before any others
  obtain ⟨used, hused, hlength, hlater⟩ := (h.goes_start draws).exists_used hcomplete
  have hwalk : ∀ later, g.walk (used ++ later) = { g.walk draws with rest := later } :=
    fun later => (h.goes_start (used ++ later)).unique (hlater later)
  refine ⟨used, _, hused, ⟨?_, fun later => ?_, fun later => ?_, fun later => ?_⟩, hrest.symm⟩
  · have hcells := congrArg List.length (h.cells_walk_eq_spell hcomplete)
    rw [spell, ContextSpace.length_spell, g.alphabet.length_codesOf] at hcells
    rw [hlength, hword]
    exact hcells
  · rw [hwalk later]
    exact hcomplete
  · rw [candidate, hwalk later, hword]
    rfl
  · rw [hwalk later]

/-! ## (3) Attempts -/

/-- A candidate that does not qualify is passed over, as long as the budget leaves the attempt. -/
theorem Selects.attempt_of_not_qualifies (hs : g.Selects word used)
    (h : g.Embodies learned settled) (hrejected : g.qualifies p word = false)
    {budget : Option Nat} {attempts : Nat} (hbudget : ¬ budget.any (· ≤ attempts))
    (later : List Draw) :
    g.attempt (judgeOf p) budget attempts (used ++ later)
      = g.attempt (judgeOf p) budget (attempts + 1) later := by
  rw [h.attempt_of_complete _ hbudget (hs.complete later), hs.candidate_eq, hs.rest_eq]
  by_cases hknown : g.knows word
  · rw [if_pos hknown]
  · have hp : p word = false := by simpa [qualifies, hknown] using hrejected
    rw [if_neg hknown, judgeOf, hp]

/-- **A candidate that qualifies is found**, as long as the budget leaves the attempt. -/
theorem Selects.attempt_of_qualifies (hs : g.Selects word used) (h : g.Embodies learned settled)
    (hqualifies : g.qualifies p word) {budget : Option Nat} {attempts : Nat}
    (hbudget : ¬ budget.any (· ≤ attempts)) (later : List Draw) :
    g.attempt (judgeOf p) budget attempts (used ++ later)
      = ⟨g.found word (attempts + 1), later⟩ := by
  obtain ⟨hnew, hp⟩ : g.knows word = false ∧ p word = true := by
    simpa [qualifies] using hqualifies
  rw [h.attempt_of_complete _ hbudget (hs.complete later), hs.candidate_eq, hs.rest_eq, hnew,
    judgeOf, hp]
  rfl

/-- **Candidates that do not qualify are passed over**, one attempt each, and nothing but their draws
is used up. -/
theorem Embodies.attempt_of_skipped (h : g.Embodies learned settled) (p : String → Bool)
    {skipped words : List String} (hskipped : ∀ word ∈ skipped, g.qualifies p word = false)
    {draws : List Draw} (hwords : g.candidates draws = skipped ++ words) :
    ∃ used rest, draws = used ++ rest ∧ used.length = spent skipped ∧ g.candidates rest = words
      ∧ ∀ (budget : Option Nat) attempts, (∀ most ∈ budget, attempts + skipped.length ≤ most) →
        ∀ later, g.attempt (judgeOf p) budget attempts (used ++ later)
          = g.attempt (judgeOf p) budget (attempts + skipped.length) later := by
  -- on the candidates passed over: the first one takes an attempt, and its draws come first
  induction skipped generalizing draws with
  | nil => exact ⟨[], draws, rfl, rfl, hwords, fun budget attempts _ later => rfl⟩
  | cons word skipped ih =>
      obtain ⟨first, rest, rfl, hs, hrest⟩ := h.exists_selects hwords
      obtain ⟨used, last, rfl, hlength, hlast, hused⟩ :=
        ih (fun word' hword' => hskipped word' (List.mem_cons_of_mem _ hword')) hrest
      refine ⟨first ++ used, last, (List.append_assoc _ _ _).symm, ?_, hlast, ?_⟩
      · rw [List.length_append, hs.length_eq, hlength, spent_cons]
      · intro budget attempts hbudget later
        have hfirst : ¬ budget.any (· ≤ attempts) := by
          intro hany
          obtain ⟨most, hmost, hle⟩ := (Option.any_eq_true _ _).mp hany
          have := hbudget most hmost
          rw [List.length_cons] at this
          have := of_decide_eq_true hle
          omega
        have hothers : ∀ most ∈ budget, attempts + 1 + skipped.length ≤ most := by
          intro most hmost
          have := hbudget most hmost
          rw [List.length_cons] at this
          omega
        rw [List.append_assoc,
          hs.attempt_of_not_qualifies h (hskipped word List.mem_cons_self) hfirst,
          hused budget (attempts + 1) hothers later, List.length_cons]
        congr 1
        omega

/-- **What a judge says of words learned does not matter**, as none of them is shown to it. -/
theorem attempt_congr {accepts accepts' : Judge}
    (hagree : ∀ word, g.knows word = false → accepts word = accepts' word) (budget : Option Nat)
    (attempts : Nat) (draws : List Draw) :
    g.attempt accepts budget attempts draws = g.attempt accepts' budget attempts draws := by
  -- the draws that are left over get fewer with each attempt
  induction hlength : draws.length using Nat.strong_induction_on generalizing attempts draws with
  | h length ih =>
      rw [attempt, attempt.eq_def g accepts']
      -- both attempts are the same up to the question whether the word is accepted
      by_cases hbudget : budget.any (· ≤ attempts)
      · rw [if_pos hbudget, if_pos hbudget]
      · rw [if_neg hbudget, if_neg hbudget]
        dsimp only
        split
        · rfl
        · rfl
        · rfl
        · next hcomplete =>
          have hlt := hlength ▸ g.length_rest_walk_lt hcomplete
          have hnext := ih _ hlt (attempts + 1) (g.walk draws).rest rfl
          split
          · rfl
          · next word hword =>
            by_cases hknown : g.knows word
            · rw [if_pos hknown, if_pos hknown, hnext]
            · rw [if_neg hknown, if_neg hknown, hagree word (Bool.eq_false_of_not_eq_true hknown),
                hnext]

/-! ## (4) Sampling -/

/-- **Sampling finds the first candidate that qualifies**, if its budget goes that far. -/
theorem Embodies.generate_of_first (h : g.Embodies learned settled) {skipped words : List String}
    (hskipped : ∀ word ∈ skipped, g.qualifies p word = false) (hqualifies : g.qualifies p word)
    {draws : List Draw} (hwords : g.candidates draws = skipped ++ word :: words) :
    ∃ used rest, draws = used ++ rest ∧ used.length = spent (skipped ++ [word])
      ∧ g.candidates rest = words
      ∧ ∀ budget : Option Int, (∀ most ∈ budget, (skipped.length : Int) + 1 ≤ most) →
        ∀ later, g.generate (judgeOf p) budget (used ++ later)
          = ⟨g.found word (skipped.length + 1), later⟩ := by
  obtain ⟨first, rest, rfl, hlength, hrest, hfirst⟩ := h.attempt_of_skipped p hskipped hwords
  obtain ⟨last, rest, rfl, hs, hlast⟩ := h.exists_selects hrest
  refine ⟨first ++ last, rest, (List.append_assoc _ _ _).symm, ?_, hlast, ?_⟩
  · rw [List.length_append, hlength, hs.length_eq, spent_append, spent_cons, spent_nil]
  · intro budget hbudget later
    -- the budget covers the candidates passed over, and then one more
    have hpositive : ∀ most ∈ budget, 1 ≤ most := by
      intro most hmost
      have := hbudget most hmost
      omega
    have henough : ∀ most ∈ budget.map Int.toNat, 0 + skipped.length ≤ most := by
      intro most hmost
      obtain ⟨given, hgiven, rfl⟩ := Option.mem_map.mp hmost
      have := hbudget given hgiven
      omega
    have hleft : ∀ most ∈ budget, ((0 + skipped.length : Nat) : Int) < most := by
      intro most hmost
      have := hbudget most hmost
      omega
    rw [generate_of_one_le hpositive, List.append_assoc, hfirst _ 0 henough,
      hs.attempt_of_qualifies h hqualifies (not_any_le_iff.mpr hleft), Nat.zero_add]

/-- **Sampling gives up after as many candidates as its budget says**, if none of them qualifies. -/
theorem Embodies.generate_of_exhausted (h : g.Embodies learned settled)
    {skipped words : List String} (hskipped : ∀ word ∈ skipped, g.qualifies p word = false)
    (hpositive : 1 ≤ skipped.length) {draws : List Draw}
    (hwords : g.candidates draws = skipped ++ words) :
    ∃ used rest, draws = used ++ rest ∧ used.length = spent skipped
      ∧ ∀ later, g.generate (judgeOf p) (some skipped.length) (used ++ later)
        = ⟨.error (.attemptsExhausted skipped.length), later⟩ := by
  obtain ⟨used, rest, rfl, hlength, -, hused⟩ := h.attempt_of_skipped p hskipped hwords
  refine ⟨used, rest, rfl, hlength, fun later => ?_⟩
  have hone : ∀ most ∈ some (skipped.length : Int), 1 ≤ most := by
    intro most hmost
    obtain rfl := Option.mem_some.mp hmost
    omega
  rw [generate_of_one_le hone, Option.map_some, Int.toNat_natCast,
    hused _ 0 (by simp), attempt, if_pos (by simp), Nat.zero_add]

/-- **Sampling several words finds the first candidates that qualify**, and uses up the draws of the
candidates up to the last one of these. -/
theorem Embodies.generateMany_eq_filter (h : g.Embodies learned settled) (p : String → Bool)
    (hpatience : ∀ attempts, (Configuration.isSlow? attempts g.patience).isSome) (count : Nat)
    {draws : List Draw} (hcount : count ≤ ((g.candidates draws).filter (g.qualifies p)).length) :
    ∃ tried, tried <+: g.candidates draws
      ∧ tried.filter (g.qualifies p) = ((g.candidates draws).filter (g.qualifies p)).take count
      ∧ (∀ word ∈ tried.getLast?, g.qualifies p word)
      ∧ ∃ used rest, draws = used ++ rest ∧ used.length = spent tried
      ∧ ∃ found : List Found, found.map (·.word) = tried.filter (g.qualifies p)
        ∧ ∀ later, g.generateMany (judgeOf p) none count (used ++ later) = ⟨found, none, later⟩ := by
  induction count generalizing draws with
  | zero =>
      exact ⟨[], List.nil_prefix, rfl, by simp, [], draws, rfl, rfl, [], rfl, fun later => rfl⟩
  | succ count ih =>
      -- the first call passes over some candidates, and the others start after the one it finds
      obtain ⟨word, more, hfilter⟩ := List.exists_cons_of_length_pos (Nat.zero_lt_of_lt hcount)
      obtain ⟨skipped, words, hwords, hskipped, hqualifies, hmore⟩ :=
        List.filter_eq_cons_iff.mp hfilter
      have hskipped' : ∀ word' ∈ skipped, g.qualifies p word' = false := fun word' hword' =>
        Bool.eq_false_of_not_eq_true (hskipped word' hword')
      obtain ⟨first, rest, rfl, hlength, hrest, hfirst⟩ :=
        h.generate_of_first hskipped' hqualifies hwords
      rw [hfilter, List.length_cons, ← hmore, ← hrest] at hcount
      obtain ⟨tried, htried, hfiltered, hlast, others, last, rfl, hothers, found, hfound, hlater⟩ :=
        ih (Nat.le_of_succ_le_succ hcount)
      obtain ⟨slow, hslow⟩ := Option.isSome_iff_exists.mp (hpatience (skipped.length + 1))
      have hsplit : (skipped ++ word :: tried).filter (g.qualifies p)
          = word :: tried.filter (g.qualifies p) := by
        rw [List.filter_append, List.filter_eq_nil_iff.mpr hskipped, List.nil_append,
          List.filter_cons_of_pos hqualifies]
      refine ⟨skipped ++ word :: tried, ?_, ?_, ?_, first ++ others, last,
        (List.append_assoc _ _ _).symm, ?_, ⟨word, skipped.length + 1, slow⟩ :: found, ?_, ?_⟩
      · rw [hwords, ← hrest]
        exact (List.prefix_append_right_inj _).mpr (List.cons_prefix_cons.mpr ⟨rfl, htried⟩)
      · rw [hsplit, hfiltered, hfilter, hrest, hmore, List.take_succ_cons]
      · intro word' hword'
        rw [List.getLast?_append, List.getLast?_cons, Option.some_or, Option.mem_some] at hword'
        cases hlast' : tried.getLast? with
        | none => simpa [← hword', hlast'] using hqualifies
        | some word'' => simpa [← hword', hlast'] using hlast word'' hlast'
      · rw [List.length_append, hlength, hothers, spent_append, spent_append, spent_cons, spent_cons,
          spent_nil]
        omega
      · rw [hsplit, List.map_cons, hfound]
      · intro later
        have hgenerate := hfirst none (fun most hmost => nomatch hmost) (others ++ later)
        rw [Generator.found, hslow] at hgenerate
        rw [List.append_assoc, generateMany, hgenerate]
        simp only [hlater later]

/-! ## (5) Every run -/

/-- **Sampling after any run is a search among candidates**, for every predicate and all draws. Without
an attempt in the budget, no draw is used. Otherwise the first candidate that was not learned and of
which the predicate is true is found, with as many attempts as there are candidates up to it, if the
budget allows as many; and if the budget is used up before that, no more candidates are looked at. What
the predicate says of words learned does not matter, and several calls on one run of draws find the
first such candidates in order. -/
theorem generate_run_eq_first (alphabet : Alphabet) (order : Nat) (order_pos : 0 < order)
    (patience : Setting) (operations : List Operation) (p : String → Bool) (draws : List Draw) :
    let g := (untrained alphabet order order_pos patience).run operations
    let words := g.candidates draws
    (∀ most < (1 : Int), g.generate (judgeOf p) (some most) draws = ⟨.error .noAttempts, draws⟩)
      ∧ (∀ i (hi : i < words.length), g.qualifies p words[i] →
        (∀ k (hk : k < i), g.qualifies p words[k] = false) →
        ∀ budget : Option Int, (∀ most ∈ budget, (i : Int) + 1 ≤ most) →
          UsesUp (g.generate (judgeOf p) budget) draws (spent (words.take (i + 1))) fun later =>
            ⟨g.found words[i] (i + 1), later⟩)
      ∧ (∀ word attempts slow, Configuration.isSlow? attempts patience = some slow →
        g.found word attempts = .ok ⟨word, attempts, slow⟩
          ∧ (foundRecord ⟨word, attempts, slow⟩).text = "Generated " ++ Text.quoted word
            ++ (if slow then " only after " else " after ") ++ toString attempts ++ " attempts")
      ∧ (∀ most : Nat, 1 ≤ most → most ≤ words.length →
        (∀ word ∈ words.take most, g.qualifies p word = false) →
          UsesUp (g.generate (judgeOf p) (some most)) draws (spent (words.take most)) fun later =>
            ⟨.error (.attemptsExhausted most), later⟩)
      ∧ (∀ p' : String → Bool, (∀ word, g.knows word = false → p' word = p word) →
        ∀ budget draws', g.generate (judgeOf p') budget draws'
          = g.generate (judgeOf p) budget draws')
      ∧ ((∀ attempts, (Configuration.isSlow? attempts patience).isSome) →
        ∀ count ≤ (words.filter (g.qualifies p)).length, ∃ tried, tried <+: words
          ∧ tried.filter (g.qualifies p) = (words.filter (g.qualifies p)).take count
          ∧ (∀ word ∈ tried.getLast?, g.qualifies p word)
          ∧ ∃ found : List Found, found.map (·.word) = (words.filter (g.qualifies p)).take count
            ∧ UsesUp (g.generateMany (judgeOf p) none count) draws (spent tried) fun later =>
              ⟨found, none, later⟩) := by
  intro g words
  have h := embodies_run alphabet order order_pos patience operations
  have hpatience : g.patience = patience := (sameMake_run _ operations).patience_eq
  refine ⟨fun most hmost => ?_, fun i hi hqualifies hskipped budget hbudget => ?_,
    fun word attempts slow hslow => ⟨?_, ?_⟩, fun most hone hmost hskipped => ?_,
    fun p' hagree budget draws' => ?_, fun hcomparable count hcount => ?_⟩
  · rw [generate, if_pos (by simpa using hmost)]
  · have hsplit : words = words.take i ++ words[i] :: words.drop (i + 1) := by
      rw [← List.drop_eq_getElem_cons hi, List.take_append_drop]
    have hskipped' : ∀ word ∈ words.take i, g.qualifies p word = false := by
      intro word hword
      obtain ⟨k, hk, rfl⟩ := List.mem_take_iff_getElem.mp hword
      exact hskipped k (by omega)
    have hlength : (words.take i).length = i := List.length_take_of_le hi.le
    obtain ⟨used, rest, hused, hspent, -, hlater⟩ :=
      h.generate_of_first hskipped' hqualifies hsplit
    rw [hlength] at hlater
    refine ⟨used, rest, hused, ?_, hlater budget hbudget⟩
    rw [hspent, List.take_succ_eq_append_getElem hi]
  · rw [Generator.found, hpatience, hslow]
  · cases slow <;> simp [foundRecord, String.append_assoc]
  · have hlength : (words.take most).length = most := List.length_take_of_le hmost
    have hsplit := (List.take_append_drop most words).symm
    have hexhausted := h.generate_of_exhausted hskipped (by omega) hsplit
    rwa [hlength] at hexhausted
  · have hjudges : ∀ word, g.knows word = false → judgeOf p' word = judgeOf p word :=
      fun word hword => congrArg Except.ok (hagree word hword)
    unfold generate
    rw [attempt_congr hjudges]
  · obtain ⟨tried, htried, hfiltered, hlast, used, rest, hused, hspent, found, hfound, hlater⟩ :=
      h.generateMany_eq_filter p (hpatience.symm ▸ hcomparable) count hcount
    exact ⟨tried, htried, hfiltered, hlast, found, hfound.trans hfiltered, used, rest, hused, hspent,
      hlater⟩

/-- Draws that spell `A`, which was learned, and then `B`, which was not, make sampling find `B` with
the second attempt, after all four of them. -/
theorem generate_mixedRun_eq_first :
    let g := (untrained .ofAB 1 Nat.one_pos (.integer 1000)).run mixedRun
    let draws : List Draw := [.negative, .level .one, .level .one, .level .one]
    g.candidates draws = ["A", "B"]
      ∧ UsesUp (g.generate (judgeOf fun _ => true) (some 2)) draws 4 fun later =>
        ⟨.ok ⟨"B", 2, false⟩, later⟩ := by
  intro g draws
  have hwords : g.candidates draws = ["A", "B"] := by decide +kernel
  have hknown : g.qualifies (fun _ => true) "A" = false := by decide +kernel
  have hnew : g.qualifies (fun _ => true) "B" := by decide +kernel
  obtain ⟨-, hfirst, hfound, -⟩ := generate_run_eq_first .ofAB 1 Nat.one_pos (.integer 1000) mixedRun
    (fun _ => true) draws
  refine ⟨hwords, ?_⟩
  have hi : 1 < (g.candidates draws).length := by
    rw [hwords]
    decide
  have hsecond : (g.candidates draws)[1] = "B" := by simp [hwords]
  have hskipped : ∀ k (hk : k < 1),
      g.qualifies (fun _ => true) ((g.candidates draws)[k]) = false := by
    intro k hk
    obtain rfl : k = 0 := by omega
    simpa [hwords] using hknown
  have hsample := hfirst 1 hi (hsecond.symm ▸ hnew) hskipped (some 2) (by decide)
  rw [hsecond, (hfound "B" 2 false rfl).1, hwords] at hsample
  exact hsample

end Pseudoword.Generator
