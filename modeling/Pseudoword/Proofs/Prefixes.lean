import Mathlib
import Pseudoword.Proofs.Building
import Pseudoword.Proofs.Cutting
import Pseudoword.Proofs.Extending

/-! # Asking for fewer words

A run that is asked for words looks at its arguments, builds a model, and then writes words as it finds
them, until there are as many as were asked for or something goes wrong. With an integer for a seed, two
such runs make the same draws, so that they differ in nothing but where they stop: whoever asks for fewer
words sees the beginning of what he would have seen.

* **`cut_resultLines`**, **`eq_of_resultLines_eq`** — words are told by their lines.
* **`Command.criterion?_cases`** — what an argument gives for a criterion.
* **`Command.prepare_outcomes`**, **`Command.prepare_cases`** — what there is once the arguments were looked at,
  or why the run has failed.
* **`Command.sampleWords_add`**, **`Command.sampleWords_entropy`** — sampling that is decided needs neither
  more draws nor, with a seed, other surroundings.
* **`Command.leaves_sampleWords`** — what sampling leaves behind.
* **`Invocation.Leaves`** — what an invocation leaves behind, given sufficiently many draws.
* **`Invocation.leaves_generate`** — invocations with different counts. -/

namespace Pseudoword

open Generator Vocabulary

/-! ## (1) Words as results -/

/-- Words as results, each on a line of its own. -/
def resultLines : List String → String
  | [] => ""
  | word :: words => word ++ "\n" ++ resultLines words

/-- The first word comes before a line feed, and the others after it. -/
theorem toList_resultLines_cons (word : String) (words : List String) :
    (resultLines (word :: words)).toList = word.toList ++ '\n' :: (resultLines words).toList := by
  rw [resultLines, String.toList_append, String.toList_append, List.append_assoc]
  rfl

/-- **Words without line feeds are the pieces** that their lines are cut into. -/
theorem cut_resultLines {words : List String} (h : ∀ word ∈ words, '\n' ∉ word.toList) :
    Cut '\n' (resultLines words).toList (words.map fun word => word.toList ++ ['\n']) := by
  induction words with
  | nil => exact .nil
  | cons word words ih =>
      rw [List.forall_mem_cons] at h
      rw [toList_resultLines_cons, List.map_cons]
      exact .after h.1 (ih h.2)

/-- **Words without line feeds are told apart by their lines.** -/
theorem eq_of_resultLines_eq {words words' : List String} (h : ∀ word ∈ words, '\n' ∉ word.toList)
    (h' : ∀ word ∈ words', '\n' ∉ word.toList) (heq : resultLines words = resultLines words') :
    words = words' := by
  have hinj : Function.Injective fun word : String => word.toList ++ ['\n'] := fun word word' hword =>
    String.toList_inj.mp (List.append_cancel_right hword)
  have hcut := cut_resultLines h'
  rw [← heq] at hcut
  exact (List.map_injective_iff.mpr hinj (hcut.unique (cut_resultLines h)))

/-- A word as a result is a line. -/
theorem Console.output_result_word (console : Console) (word : String) :
    (console.result [.string word]).output = console.output ++ word ++ "\n" := rfl

namespace Command

/-- **Writing words** adds a line for each, and reports about them are no results. -/
theorem output_writeFound (console : Console) (found : List Found) :
    (writeFound console found).output
      = console.output ++ resultLines (found.map Found.word) := by
  induction found generalizing console with
  | nil => exact String.append_empty.symm
  | cons first found ih =>
      rw [writeFound, List.foldl_cons]
      show (writeFound _ found).output = _
      rw [ih, Console.output_result_word, Console.output_log, List.map_cons, resultLines]
      simp only [String.append_assoc]

variable {s : Surroundings} {console : Console} {criteria : Option String} {budget : Option Int}
  {m : ModelRequest} {model : Model} {count limit : Nat} {criterion : Option Criterion}

/-! ## (2) Looking at the arguments -/

/-- **What stands in the way of sampling**: the budget, the criterion, or what the model is built from. -/
def Refused (s : Surroundings) (console : Console) (criteria : Option String) (budget : Option Int)
    (m : ModelRequest) : Prop :=
  (∃ attempts ∈ budget, attempts < 1) ∨ (∃ fault, criterion? s.engine criteria = .error fault)
    ∨ ∃ outcome, m.build s console = .error outcome

/-- **What breaks a run off before sampling, because no error is made of it.** The budget is looked at first,
then the criterion, and then the model is built. -/
inductive Unprepared (s : Surroundings) (criteria : Option String) (budget : Option Int)
    (m : ModelRequest) : RunFault → Prop where
  /-- The criterion has a fault that is more than bad writing. -/
  | criterion {fault : CriterionFault} (hbudget : ∀ attempts ∈ budget, 1 ≤ attempts)
    (hcriterion : criterion? s.engine criteria = .error fault)
    (hother : ∀ source cause position, fault ≠ .badPattern source (.malformed cause position)) :
    Unprepared s criteria budget m (.criterion fault)
  /-- No model can be built. -/
  | model {criterion : Option Criterion} {fault : RunFault} (hbudget : ∀ attempts ∈ budget, 1 ≤ attempts)
    (hcriterion : criterion? s.engine criteria = .ok criterion) (hmodel : m.Unreported s fault) :
    Unprepared s criteria budget m fault

theorem Unprepared.isGiven {fault : RunFault} (h : Unprepared s criteria budget m fault) :
    fault.IsGiven := by
  cases h with
  | criterion hbudget hcriterion hother => exact .criterion hother
  | model hbudget hcriterion hmodel => exact hmodel.isGiven

/-- **What an argument gives for a criterion**: none if it is absent or empty, and otherwise what there is of the
pattern that it spells. -/
theorem criterion?_cases (engine : Pattern.Engine) (criteria : Option String) :
    ((∀ source ∈ criteria, source = "") ∧ criterion? engine criteria = .ok none)
      ∨ (∃ source ∈ criteria, ∃ criterion, Criterion.ofPattern engine source = .ok criterion
        ∧ criterion? engine criteria = .ok (some criterion))
      ∨ ∃ source ∈ criteria, ∃ fault, Criterion.ofPattern engine source = .error fault
        ∧ criterion? engine criteria = .error fault := by
  cases criteria with
  | none => exact .inl ⟨nofun, rfl⟩
  | some source =>
      rw [criterion?]
      by_cases hempty : source.isEmpty = true
      · refine .inl ⟨fun other hother => ?_, if_pos hempty⟩
        obtain rfl := Option.some.inj hother
        exact String.isEmpty_iff.mp hempty
      · rw [if_neg hempty]
        cases hpattern : Criterion.ofPattern engine source with
        | ok criterion => exact .inr (.inl ⟨source, rfl, criterion, hpattern, rfl⟩)
        | error fault => exact .inr (.inr ⟨source, rfl, fault, hpattern, rfl⟩)

/-- With a budget that allows an attempt, or none at all, the criterion is looked at. -/
theorem prepare_of_one_le (hbudget : ∀ attempts ∈ budget, 1 ≤ attempts) :
    prepare s console criteria budget m = match criterion? s.engine criteria with
      | .error fault => .error (.badCriterion console fault)
      | .ok criterion => (m.build s console).map fun model => (criterion, model) := by
  refine if_neg fun hany => ?_
  obtain ⟨attempts, hmem, hlt⟩ := (Option.any_eq_true _ _).mp hany
  exact absurd (hbudget attempts hmem) (not_le.mpr (of_decide_eq_true hlt))

/-- With a count that is not negative, the other arguments are looked at. -/
theorem runGenerate_of_nonneg {number : Int} (hnumber : 0 ≤ number) :
    runGenerate s console number criteria budget m limit
      = match prepare s console criteria budget m with
        | .error outcome => outcome
        | .ok (criterion, model) => sampleWords model s number.toNat criterion budget limit :=
  if_neg (not_lt.mpr hnumber)

/-- **It breaks the run off.** -/
theorem Unprepared.prepare_eq {fault : RunFault} (h : Unprepared s criteria budget m fault)
    (console : Console) : prepare s console criteria budget m = .error (.broken fault console) := by
  cases h with
  | criterion hbudget hcriterion hother =>
      rw [prepare_of_one_le hbudget, hcriterion]
      exact congrArg Except.error (Outcome.badCriterion_of_ne_malformed hother)
  | model hbudget hcriterion hmodel =>
      rw [prepare_of_one_le hbudget, hcriterion, hmodel.build_eq console]
      rfl

/-- **Either something stands in the way**, and then the run ends with an error; or there is what a model is
built from, and the model is built. -/
theorem prepare_outcomes (s : Surroundings) (console : Console) (criteria : Option String)
    (budget : Option Int) (m : ModelRequest) :
    (Refused s console criteria budget m
        ∧ ∃ outcome, prepare s console criteria budget m = .error outcome
          ∧ outcome.Ends console (Unprepared s criteria budget m))
      ∨ ∃ (criterion : Option Criterion) (b : m.Basis s), (∀ attempts ∈ budget, 1 ≤ attempts)
        ∧ criterion? s.engine criteria = .ok criterion ∧ m.build s console = .ok (b.model console)
        ∧ prepare s console criteria budget m = .ok (criterion, b.model console) := by
  by_cases hbudget : budget.any (· < 1) = true
  · obtain ⟨attempts, hmem, hlt⟩ := (Option.any_eq_true _ _).mp hbudget
    have hrefused : Refused s console criteria budget m :=
      .inl ⟨attempts, hmem, of_decide_eq_true hlt⟩
    refine .inl ⟨hrefused, ?_⟩
    rw [prepare, if_pos hbudget]
    exact ⟨_, rfl, .inl ⟨_, rfl⟩⟩
  · have hpositive : ∀ attempts ∈ budget, 1 ≤ attempts := by
      intro attempts hmem
      by_contra hlt
      exact hbudget ((Option.any_eq_true _ _).mpr ⟨attempts, hmem, decide_eq_true (by omega)⟩)
    rw [prepare_of_one_le hpositive]
    cases hcriterion : criterion? s.engine criteria with
    | error fault =>
        have hrefused : Refused s console criteria budget m := .inr (.inl ⟨fault, hcriterion⟩)
        refine .inl ⟨hrefused, _, rfl, (Outcome.ends_badCriterion console fault).mono ?_⟩
        rintro _ ⟨rfl, hother⟩
        exact .criterion hpositive hcriterion hother
    | ok criterion =>
        rcases m.build_outcomes s console with ⟨⟨b⟩⟩ | ⟨outcome, hbuild, hends⟩
        · rw [b.build_eq console]
          exact .inr ⟨criterion, b, hpositive, rfl, rfl, rfl⟩
        · have hrefused : Refused s console criteria budget m := .inr (.inr ⟨outcome, hbuild⟩)
          rw [hbuild]
          exact .inl ⟨hrefused, outcome, rfl, hends.mono fun _ => .model hpositive hcriterion⟩

/-- **Either something stands in the way**, and then the run has failed without a result; or there is
what a model is built from, and the model is built. -/
theorem prepare_cases (s : Surroundings) (console : Console) (criteria : Option String)
    (budget : Option Int) (m : ModelRequest) :
    (Refused s console criteria budget m
        ∧ ∃ outcome, prepare s console criteria budget m = .error outcome
          ∧ outcome.Fails console.output)
      ∨ ∃ (criterion : Option Criterion) (b : m.Basis s), (∀ attempts ∈ budget, 1 ≤ attempts)
        ∧ criterion? s.engine criteria = .ok criterion ∧ m.build s console = .ok (b.model console)
        ∧ prepare s console criteria budget m = .ok (criterion, b.model console) :=
  (prepare_outcomes s console criteria budget m).imp_left fun ⟨hrefused, outcome, hprepare, hends⟩ =>
    ⟨hrefused, outcome, hprepare, hends.fails fun _ hfault => hfault.isGiven⟩

/-! ## (3) Sampling -/

/-- **Samples that are decided** are the same with more draws, but for the draws left over. -/
theorem sampleWords_add
    (hdecided : (samples model s count criterion budget limit).fault ≠ some .outOfDraws)
    (more : Nat) : sampleWords model s count criterion budget (limit + more)
      = sampleWords model s count criterion budget limit := by
  have hsamples := generateMany_append (judge s.engine criterion) budget count hdecided
    (((model.seed.source s.entropy).skip limit).draws more)
  rw [sampleWords, sampleWords, samples, Mersenne.draws_add, hsamples]
  rfl

/-- **With a seed, the samples do not depend on what the source would start from otherwise.** -/
theorem samples_entropy {value : Nat} (hseed : model.seed = .number value) (entropy : Nat) :
    samples model { s with entropy := entropy } count criterion budget limit
      = samples model s count criterion budget limit := by
  rw [samples, samples, hseed]
  rfl

/-- Sampling is undecided exactly if it runs out of draws. -/
theorem stopped_eq_undecided_iff {fault : Option SampleFault} :
    stopped console fault = .undecided ↔ fault = some .outOfDraws := by
  constructor
  · intro hundecided
    unfold stopped at hundecided
    split at hundecided
    · cases hundecided
    · rfl
    · cases hundecided
    · cases hundecided
    · cases hundecided
  · rintro rfl
    rfl

/-- **A fault that sampling stops for makes the run fail**, unless more draws are needed. What it is
broken off for was given to it. -/
theorem fails_stopped {g : Generator} {accepts : Judge} {fault : SampleFault}
    (hstops : g.Stops accepts (.error fault)) (hdraws : fault ≠ .outOfDraws) (console : Console) :
    (stopped console (some fault)).Fails console.output := by
  cases hstops with
  | exhausted attempts => exact Outcome.fails_failed console _
  | outOfDraws => exact absurd rfl hdraws
  | dead draws row hdead => exact Outcome.fails_failed console _
  | unjudged fault => exact Outcome.fails_broken (.judge fault) console
  | incomparable patience => exact Outcome.fails_broken (.patience patience) console

/-- **What sampling leaves behind** once it is decided: the words found, and a status that tells whether
they are as many as were asked for. -/
theorem leaves_sampleWords {learned settled : List String}
    (h : model.generator.Embodies learned settled) (hbudget : ∀ attempts ∈ budget, 1 ≤ attempts)
    (hdecided : (samples model s count criterion budget limit).fault ≠ some .outOfDraws) :
    (sampleWords model s count criterion budget limit).Leaves
        (if count ≤ (samples model s count criterion budget limit).found.length then 0 else 1)
        (model.console.output
          ++ resultLines ((samples model s count criterion budget limit).found.map Found.word))
      ∧ ∀ fault console, sampleWords model s count criterion budget limit = .broken fault console →
        fault.IsGiven := by
  have hle := length_found_le model.generator (judge s.engine criterion) budget count
    ((model.seed.source s.entropy).draws limit)
  have hnone := fault_eq_none_iff model.generator (judge s.engine criterion) budget count
    ((model.seed.source s.entropy).draws limit)
  rw [← output_writeFound, sampleWords]
  cases hfault : (samples model s count criterion budget limit).fault with
  | none =>
      have hcount : count ≤ (samples model s count criterion budget limit).found.length :=
        (hnone.mp hfault).ge
      rw [if_pos hcount]
      exact ⟨⟨rfl, rfl⟩, fun fault console hbroken => by cases hbroken⟩
  | some fault =>
      -- fewer words were found than were asked for
      have hlt : ¬ count ≤ (samples model s count criterion budget limit).found.length := by
        intro hge
        have hnever : (samples model s count criterion budget limit).fault = none :=
          hnone.mpr (Nat.le_antisymm hle hge)
        cases hfault.symm.trans hnever
      have hstops := h.stops_of_fault hbudget count _ hfault
      have hfails := fails_stopped hstops (fun hdraws => hdecided (hdraws ▸ hfault))
        (writeFound model.console (samples model s count criterion budget limit).found)
      rw [if_neg hlt]
      exact ⟨hfails.toLeaves, hfails.isGiven⟩

/-- **Fewer words.** Once sampling is decided for some count, there are words so that it leaves behind the
first of them for every smaller count, whatever the source would start from without its seed. -/
theorem exists_words (b : m.Basis s) (hbudget : ∀ attempts ∈ budget, 1 ≤ attempts) {value : Nat}
    (hseed : b.seed = .number value) {most : Nat}
    (hdecided : sampleWords (b.model console) s most criterion budget limit ≠ .undecided) :
    ∃ words : List String, words.length ≤ most
      ∧ (∀ count ≤ most, ∃ outcome : Outcome,
        outcome.Leaves (if count ≤ words.length then 0 else 1)
            (console.output ++ resultLines (words.take count))
          ∧ (∀ fault console, outcome = .broken fault console → fault.IsGiven)
          ∧ ∀ entropy draws, limit ≤ draws →
            sampleWords (b.model console) { s with entropy := entropy } count criterion budget draws
              = outcome)
      ∧ ∀ word ∈ words, b.alphabet.Spells word ∧ word ∉ b.words
        ∧ judge s.engine criterion word = .ok true := by
  set model := b.model console with hmodel
  have hembodies : model.generator.Embodies b.words b.words := b.embodies
  set found := (samples model s most criterion budget limit).found with hfound
  have hmost : (samples model s most criterion budget limit).fault ≠ some .outOfDraws :=
    fun hfault => hdecided (stopped_eq_undecided_iff.mpr hfault)
  refine ⟨found.map Found.word, ?_, fun count hle => ?_, fun word hword => ?_⟩
  · rw [List.length_map]
    exact length_found_le _ _ _ _ _
  · -- with fewer words sampling is decided by the same draws
    have hfewer : (samples model s count criterion budget limit).found = found.take count :=
      found_generateMany_of_le _ _ _ hle _
    have hfault : (samples model s count criterion budget limit).fault ≠ some .outOfDraws := by
      rw [samples, fault_generateMany_of_le _ _ _ hle]
      split
      · exact fun hnone => by cases hnone
      · exact hmost
    obtain ⟨hleaves, hgiven⟩ := leaves_sampleWords hembodies hbudget hfault
    rw [hfewer, List.map_take, List.length_take] at hleaves
    have houtput : model.console.output = console.output := by
      rw [hmodel, ModelRequest.Basis.model, Console.output_log, Console.output_log]
    simp only [houtput, le_inf_iff, le_refl, true_and] at hleaves
    rw [List.length_map]
    refine ⟨_, hleaves, hgiven, fun entropy draws hdraws => ?_⟩
    obtain ⟨more, rfl⟩ := Nat.exists_eq_add_of_le hdraws
    rw [← sampleWords_add hfault more, sampleWords, samples_entropy hseed]
    rfl
  · obtain ⟨f, hmem, rfl⟩ := List.mem_map.mp hword
    have hfound := hembodies.forall_mem_found budget most _ f hmem
    have halphabet : model.generator.alphabet = b.alphabet := b.sameMake.alphabet_eq
    rw [halphabet] at hfound
    exact hfound

/-- **A criterion that is given and not empty** is what judges words. -/
theorem exists_accepts_of_judge {word source : String} (hcriterion : criterion? s.engine criteria = .ok criterion)
    (hsource : source ∈ criteria) (hne : source ≠ "") (haccepted : judge s.engine criterion word = .ok true) :
    ∃ criterion, Criterion.ofPattern s.engine source = .ok criterion ∧ criterion.accepts s.engine word = .ok true := by
  rcases criterion?_cases s.engine criteria with
    ⟨hempty, -⟩ | ⟨given, hgiven, made, hpattern, hmade⟩ | ⟨_, -, fault, -, herror⟩
  · exact absurd (hempty source hsource) hne
  · obtain rfl := Option.mem_unique hsource hgiven
    obtain rfl := Except.ok.inj (hcriterion.symm.trans hmade)
    exact ⟨made, hpattern, haccepted⟩
  · cases hcriterion.symm.trans herror

end Command

/-! ## (4) Whole invocations -/

namespace Invocation

/-- **An invocation leaves behind** a status and results, once sufficiently many draws are prepared. If it
was broken off, something that it was given is to blame. -/
def Leaves (s : Surroundings) (i : Invocation) (status : Nat) (output : String) : Prop :=
  ∃ outcome : Outcome, outcome.Leaves status output
    ∧ (∀ fault console, outcome = .broken fault console → fault.IsGiven)
    ∧ ∃ limit, ∀ draws, limit ≤ draws → i.run s draws = .ok outcome

/-- **What an invocation leaves behind is determined.** -/
theorem Leaves.unique {s : Surroundings} {i : Invocation} {status status' : Nat}
    {output output' : String} (h : i.Leaves s status output) (h' : i.Leaves s status' output') :
    status' = status ∧ output' = output := by
  obtain ⟨outcome, hleaves, -, limit, hrun⟩ := h
  obtain ⟨outcome', hleaves', -, limit', hrun'⟩ := h'
  have hboth := (hrun _ (le_max_left limit limit')).symm.trans (hrun' _ (le_max_right limit limit'))
  obtain rfl := Except.ok.inj hboth
  exact ⟨Option.some.inj (hleaves'.status_eq.symm.trans hleaves.status_eq),
    Option.some.inj (hleaves'.output_eq.symm.trans hleaves.output_eq)⟩

/-- The invocation that asks for a number of words. -/
def forWords (quiet verbose : Bool) (criteria : Option String) (budget : Option Int)
    (m : ModelRequest) (count : Nat) : Invocation :=
  ⟨quiet, verbose, some (.generate count criteria budget m)⟩

/-- The console on which an invocation writes. -/
def console (quiet verbose : Bool) : Console :=
  .blank quiet (if verbose then .debug else .warning)

/-- An invocation that asks for words looks at its other arguments, since its count is not negative. -/
theorem run_forWords (s : Surroundings) (quiet verbose : Bool) (criteria : Option String)
    (budget : Option Int) (m : ModelRequest) (count limit : Nat) :
    (forWords quiet verbose criteria budget m count).run s limit
      = match Command.prepare s (console quiet verbose) criteria budget m with
        | .error outcome => .ok outcome
        | .ok (criterion, model) => .ok (Command.sampleWords model s count criterion budget limit) := by
  show Except.ok (Command.runGenerate s (console quiet verbose) count criteria budget m limit) = _
  rw [Command.runGenerate_of_nonneg (Int.natCast_nonneg count)]
  cases Command.prepare s (console quiet verbose) criteria budget m with
  | error outcome => rfl
  | ok prepared => rfl

/-- **An invocation that is decided** is so with more draws. -/
theorem run_forWords_add {s : Surroundings} {quiet verbose : Bool} {criteria : Option String}
    {budget : Option Int} {m : ModelRequest} {count limit : Nat}
    (hdecided : (forWords quiet verbose criteria budget m count).run s limit ≠ .ok .undecided)
    (more : Nat) : (forWords quiet verbose criteria budget m count).run s (limit + more)
      = (forWords quiet verbose criteria budget m count).run s limit := by
  rw [run_forWords] at hdecided
  rw [run_forWords, run_forWords]
  cases hprepare : Command.prepare s (console quiet verbose) criteria budget m with
  | error outcome => rfl
  | ok prepared =>
      rw [hprepare] at hdecided
      refine congrArg Except.ok (Command.sampleWords_add (fun hfault => hdecided ?_) more)
      exact congrArg Except.ok (Command.stopped_eq_undecided_iff.mpr hfault)

/-- What an invocation leaves behind is what a run of it that is decided does. -/
theorem Leaves.eq_of_run {s : Surroundings} {quiet verbose : Bool} {criteria : Option String}
    {budget : Option Int} {m : ModelRequest} {count limit status : Nat} {output : String} {outcome : Outcome}
    (h : (forWords quiet verbose criteria budget m count).Leaves s status output)
    (hrun : (forWords quiet verbose criteria budget m count).run s limit = .ok outcome)
    (hdecided : (forWords quiet verbose criteria budget m count).run s limit ≠ .ok .undecided) :
    outcome.Leaves status output := by
  obtain ⟨final, hleaves, -, draws, hfinal⟩ := h
  -- more draws change nothing
  have hmore := hfinal (limit + draws) (Nat.le_add_left draws limit)
  rw [run_forWords_add hdecided, hrun] at hmore
  exact Except.ok.inj hmore ▸ hleaves

/-- **Invocations with different counts.** Suppose that one that asks for words is decided by some number
of draws, and that its seed is an integer. Either something stands in the way of sampling, and then nothing
is written for any smaller count, and the status is one. Or there are words, at most as many as were asked
for, so that for every smaller count the first of them are written; the status is zero if they are as many
as that count, and one otherwise. Each of them can be spelled, is not the word of any line of the
dictionary, and is accepted by the criterion, if there is one. -/
theorem leaves_generate (s : Surroundings) (quiet verbose : Bool) (criteria : Option String)
    (budget : Option Int) (m : ModelRequest)
    (hseed : ∀ document, s.document = .ok document →
      ∃ value, (m.configuration document).seed = .integer value)
    (most limit : Nat)
    (hdecided : (forWords quiet verbose criteria budget m most).run s limit ≠ .ok .undecided) :
    (Command.Refused s (console quiet verbose) criteria budget m
        ∧ ∀ count ≤ most, ∀ entropy,
          (forWords quiet verbose criteria budget m count).Leaves { s with entropy := entropy } 1 "")
      ∨ ∃ (b : m.Basis s) (words : List String),
        ¬ Command.Refused s (console quiet verbose) criteria budget m
        ∧ words.length ≤ most
        ∧ (∀ count ≤ most, ∀ entropy,
          (forWords quiet verbose criteria budget m count).Leaves { s with entropy := entropy }
            (if count ≤ words.length then 0 else 1) (resultLines (words.take count)))
        ∧ ∀ word ∈ words, b.alphabet.Spells word
          ∧ (∀ line ∈ linesOf b.content, wordOf? b.uppercase line ≠ some word)
          ∧ ∀ source ∈ criteria, source ≠ "" →
            ∃ criterion, Criterion.ofPattern s.engine source = .ok criterion
              ∧ criterion.accepts s.engine word = .ok true := by
  rcases Command.prepare_cases s (console quiet verbose) criteria budget m with
    ⟨hrefused, outcome, hprepare, hfails⟩ | ⟨criterion, b, hbudget, hcriterion, hbuild, hprepare⟩
  · refine .inl ⟨hrefused, fun count _ entropy => ?_⟩
    refine ⟨outcome, hfails.toLeaves, hfails.isGiven, 0, fun draws _ => ?_⟩
    -- the entropy is not looked at before there is a model
    have hsame : Command.prepare { s with entropy := entropy } (console quiet verbose) criteria budget m
        = .error outcome := hprepare
    rw [run_forWords, hsame]
  · have hnone : ¬ Command.Refused s (console quiet verbose) criteria budget m := by
      rintro (⟨attempts, hmem, hlt⟩ | ⟨fault, hfault⟩ | ⟨outcome, houtcome⟩)
      · exact absurd (hbudget attempts hmem) (not_le.mpr hlt)
      · cases hcriterion.symm.trans hfault
      · cases hbuild.symm.trans houtcome
    obtain ⟨value, hvalue⟩ := hseed b.document b.document_eq
    have hnumber : b.seed = .number value.natAbs := by
      have hgiven := b.seed_eq
      rw [hvalue] at hgiven
      exact (Option.some.inj hgiven).symm
    rw [run_forWords, hprepare] at hdecided
    obtain ⟨words, hlength, hfewer, hwords⟩ := Command.exists_words b hbudget hnumber
      fun hundecided => hdecided (congrArg Except.ok hundecided)
    refine .inr ⟨b, words, hnone, hlength, fun count hle entropy => ?_, fun word hword => ?_⟩
    · obtain ⟨outcome, hleaves, hgiven, hrun⟩ := hfewer count hle
      have hblank : (console quiet verbose).output ++ resultLines (words.take count)
          = resultLines (words.take count) := String.empty_append
      rw [hblank] at hleaves
      refine ⟨outcome, hleaves, hgiven, limit, fun draws hdraws => ?_⟩
      have hsame : Command.prepare { s with entropy := entropy } (console quiet verbose) criteria budget
          m = .ok (criterion, b.model (console quiet verbose)) := hprepare
      rw [run_forWords, hsame]
      exact congrArg Except.ok (hrun entropy draws hdraws)
    · obtain ⟨hspells, hnew, haccepted⟩ := hwords word hword
      refine ⟨hspells, fun line hline hsome => ?_, fun source hsource hne => ?_⟩
      · exact hnew (List.mem_filterMap.mpr ⟨line, hline, hsome⟩)
      · exact Command.exists_accepts_of_judge hcriterion hsource hne haccepted

/-- After `AB` and `BA` were learned, words are asked for that are `A` behind a number of `AB`, with three
attempts at each. There are two before the attempts are used up: who asks for no more than these gets what he
asked for, and who asks for a third word does not. -/
theorem leaves_generate_twoWords :
    let m : ModelRequest := ⟨"words.txt", some "AB", some 1, some 49⟩
    let s : Surroundings := {
      document := .ok (.table []), homes := fun _ => none, directory := "/", links := .none,
      read := fun _ => .ok [0x61, 0x62, 0x0A, 0x42, 0x41, 0x0A], capacity := 9, engine := .standard,
      entropy := 0 }
    let i := forWords true false (some "(?:AB)*+A") (some 3) m
    (∀ entropy, (i 0).Leaves { s with entropy := entropy } 0 ""
        ∧ (i 1).Leaves { s with entropy := entropy } 0 "ABA\n"
        ∧ (i 2).Leaves { s with entropy := entropy } 0 "ABA\nA\n"
        ∧ (i 3).Leaves { s with entropy := entropy } 1 "ABA\nA\n")
      ∧ ∀ word ∈ ["ABA", "A"], Alphabet.ofAB.Spells word ∧ word ∉ ["AB", "BA"]
        ∧ ∃ criterion, Criterion.ofPattern s.engine "(?:AB)*+A" = .ok criterion
          ∧ criterion.accepts s.engine word = .ok true := by
  intro m s i
  have hseed : ∀ document, s.document = .ok document →
      ∃ value, (m.configuration document).seed = .integer value := by
    rintro document ⟨⟩
    exact ⟨49, rfl⟩
  -- the longest run is decided by twenty-one draws
  have hlast : ((i 3).run s 21).toOption.map (fun outcome =>
      (outcome.status?, outcome.console?.map Console.output)) = some (some 1, some "ABA\nA\n") := by
    decide +kernel
  have hdecided : (i 3).run s 21 ≠ .ok .undecided := by
    intro hundecided
    rw [hundecided] at hlast
    cases hlast
  obtain ⟨outcome, hrun⟩ : ∃ outcome, (i 3).run s 21 = .ok outcome := ⟨_, rfl⟩
  rw [hrun] at hlast
  obtain ⟨hstatus, houtput⟩ := Prod.mk.inj (Option.some.inj hlast)
  rcases leaves_generate s true false (some "(?:AB)*+A") (some 3) m hseed 3 21 hdecided with
    ⟨-, hnone⟩ | ⟨b, words, -, -, hcounts, hwords⟩
  · -- something was written
    have hleaves := (hnone 3 le_rfl s.entropy).eq_of_run hrun hdecided
    exact absurd (Option.some.inj (houtput.symm.trans hleaves.output_eq)) (by decide)
  · have hleaves := (hcounts 3 le_rfl s.entropy).eq_of_run hrun hdecided
    have hcode := hstatus.symm.trans hleaves.status_eq
    have hlines := houtput.symm.trans hleaves.output_eq
    have hfew : ¬ 3 ≤ words.length := by
      intro hmany
      rw [if_pos hmany] at hcode
      cases hcode
    -- the letters, and the words of the dictionary
    have halphabet : b.alphabet = .ofAB :=
      Except.ok.inj (b.alphabet_eq.symm.trans (rfl : Alphabet.ofSetting (.string "AB") = .ok .ofAB))
    have hdocument : b.document = .table [] := (Except.ok.inj b.document_eq).symm
    have hcontent : m.content s = .ok (.ok [0x61, 0x62, 0x0A, 0x42, 0x41, 0x0A]) := by decide +kernel
    have hbytes := Except.ok.inj (Except.ok.inj (b.content_eq.symm.trans hcontent))
    have hlearned : (linesOf b.content).filterMap (wordOf? b.uppercase) = ["AB", "BA"] := by
      rw [ModelRequest.Basis.uppercase, hdocument, hbytes]
      decide +kernel
    have hfree : ∀ word ∈ words, '\n' ∉ word.toList := by
      intro word hword hmem
      have hletter := (hwords word hword).1.2 _ hmem
      rw [halphabet] at hletter
      exact absurd hletter (by decide)
    obtain rfl : words = ["ABA", "A"] := by
      rw [List.take_of_length_le (by omega)] at hlines
      exact eq_of_resultLines_eq hfree (by decide) (Option.some.inj hlines).symm
    refine ⟨fun entropy => ⟨hcounts 0 (by decide) entropy, hcounts 1 (by decide) entropy,
      hcounts 2 (by decide) entropy, hcounts 3 le_rfl entropy⟩, fun word hword => ?_⟩
    obtain ⟨hspells, hnew, haccepted⟩ := hwords word hword
    refine ⟨halphabet ▸ hspells, ?_, haccepted _ rfl (by decide)⟩
    rw [← hlearned]
    intro hmem
    obtain ⟨line, hline, hsome⟩ := List.mem_filterMap.mp hmem
    exact hnew line hline hsome

end Invocation
end Pseudoword
