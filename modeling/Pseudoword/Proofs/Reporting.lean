import Mathlib
import Pseudoword.Proofs.Statistics

/-! # What a run reports

A run that ends has done what it was asked for, or something has gone wrong. Then it ought to report an error,
on a line of its own, and it does so where a check makes an error of what went wrong. But some values are used
before anything has looked at them: an alphabet that has no members, a seed that is a list, a patience that is no
number. They break the run off, and so do a settings document that is no text or goes too deep, a table with more
cells than fit into memory, a path that cannot be one or leads around in a circle, and criteria that are nested too
deeply or are otherwise beyond what patterns can be.

Texts are made of characters here. A text with half of a pair of code units in it, which an escape in a settings
document may spell, is none, and what becomes of one is left open; so is a lack of memory for anything but a table,
and a failure of the console.

* **`Outcome.Reports`** — a run that has reported an error.
* **`Generator.tells_fault`**, **`Generator.found_eq_nil`** — sampling with a patience that is no number.
* **`Command.Unreported`**, **`Command.Unreported.run_eq`** — what breaks a run off.
* **`Command.goes_run`** — how a run may go.
* **`ModelRequest.Refuses`** — a configuration that is refused, and **`Command.Builds.run_eq_failed`**, which is
  reported.
* **`Command.Checked`** — a command that nothing breaks off.
* **`Invocation.reports_run`** — all of this together. -/

namespace Pseudoword

open Generator

/-! ## (1) Lines about errors -/

theorem resultLines_concat (lines : List String) (line : String) :
    resultLines (lines ++ [line]) = resultLines lines ++ line ++ "\n" := by
  induction lines with
  | nil => simp [resultLines]
  | cons first lines ih =>
      rw [List.cons_append, resultLines, resultLines, ih]
      simp only [String.append_assoc]

/-- **Errors and reports stand on lines of their own.** -/
def Console.Lined (console : Console) : Prop :=
  ∃ lines, console.errors = resultLines lines

namespace Console.Lined

variable {console : Console}

theorem blank (quiet : Bool) (level : LogLevel) : (Console.blank quiet level).Lined :=
  ⟨[], rfl⟩

/-- A report is a line. -/
theorem log (h : console.Lined) (r : LogRecord) : (console.log r).Lined := by
  obtain ⟨lines, hlines⟩ := h
  rw [Console.log]
  split
  · refine ⟨lines ++ [r.line], ?_⟩
    rw [resultLines_concat, ← hlines]
  · exact ⟨lines, hlines⟩

/-- Words are written elsewhere, and the reports about them are lines. -/
theorem writeFound (h : console.Lined) (found : List Found) : (Command.writeFound console found).Lined := by
  induction found generalizing console with
  | nil => exact h
  | cons first found ih => exact ih (h.log (foundRecord first))

end Console.Lined

/-- **A run that has reported an error**: its status is one, and the last thing that it has written about errors
is a line that names one. -/
def Outcome.Reports (outcome : Outcome) : Prop :=
  ∃ (console : Console) (lines : List String) (text : String), outcome = .finished 1 console
    ∧ console.errors = resultLines lines ++ "Error: " ++ text ++ "\n"

/-- To fail with an error is to report it. -/
theorem Outcome.reports_failed {console : Console} (h : console.Lined) (text : String) :
    (Outcome.failed console text).Reports := by
  obtain ⟨lines, hlines⟩ := h
  exact ⟨console.error text, lines, text, rfl, by rw [Console.error, hlines]⟩

/-- **A run that ends with an error** has reported it, or was broken off for a fault that is not reported. -/
theorem Outcome.Ends.reports_or {outcome : Outcome} {console : Console} {unreported : RunFault → Prop}
    (h : outcome.Ends console unreported) (hlined : console.Lined) :
    outcome.Reports ∨ ∃ fault, outcome = .broken fault console ∧ unreported fault := by
  rcases h with ⟨text, rfl⟩ | ⟨fault, hfault, rfl⟩
  · exact .inl (Outcome.reports_failed hlined text)
  · exact .inr ⟨fault, rfl, hfault⟩

/-! ## (2) A patience that is no number -/

/-- **Whether a value is a number**, where yes and no count as numbers. -/
def Setting.isNumber : Setting → Bool
  | .boolean _ => true
  | .integer _ => true
  | .real _ _ => true
  | _ => false

/-- Attempts can be compared with numbers and with nothing else. -/
theorem Configuration.isSlow?_eq_none_iff {attempts : Nat} {patience : Setting} :
    Configuration.isSlow? attempts patience = none ↔ patience.isNumber = false := by
  cases patience <;> simp [isSlow?, Setting.isNumber]

namespace Generator

variable {g : Generator} {accepts : Judge}

/-- **What an outcome tells** of the patience and of the judge: a word, that the patience is a number; a fault
about the patience, that it is not; and a fault about the judge, that it failed on a word. -/
def Tells (g : Generator) (accepts : Judge) : Except SampleFault Found → Prop
  | .ok _ => g.patience.isNumber = true
  | .error (.incomparable patience) => patience = g.patience ∧ g.patience.isNumber = false
  | .error (.unjudged cause) => ∃ word, accepts word = .error cause
  | .error _ => True

theorem tells_found (g : Generator) (accepts : Judge) (word : String) (attempts : Nat) :
    g.Tells accepts (g.found word attempts) := by
  rw [Generator.found]
  cases hslow : Configuration.isSlow? attempts g.patience with
  | none => exact ⟨rfl, Configuration.isSlow?_eq_none_iff.mp hslow⟩
  | some slow =>
      refine Bool.eq_true_of_not_eq_false fun hnot => ?_
      cases hslow.symm.trans (Configuration.isSlow?_eq_none_iff.mpr hnot)

/-- **Trying walks tells the same**, by induction on the walks. -/
theorem tells_attempt (g : Generator) (accepts : Judge) (budget : Option Nat) (attempts : Nat)
    (draws : List Draw) : g.Tells accepts (g.attempt accepts budget attempts draws).result := by
  fun_induction attempt g accepts budget attempts draws with
  | case6 attempts _ _ _ _ _ word _ _ ih => exact ih
  | case7 attempts _ _ _ _ _ word _ _ cause hcause => exact ⟨word, hcause⟩
  | case8 attempts _ _ _ _ _ word _ _ _ => exact g.tells_found accepts word (attempts + 1)
  | case9 attempts _ _ _ _ _ word _ _ _ ih => exact ih
  | _ => trivial

theorem tells_generate (g : Generator) (accepts : Judge) (budget : Option Int) (draws : List Draw) :
    g.Tells accepts (g.generate accepts budget draws).result := by
  rw [generate]
  split
  · trivial
  · exact g.tells_attempt accepts _ 0 draws

/-- **What keeps sampling from finding more words** tells the same. -/
theorem tells_fault {budget : Option Int} {count : Nat} {draws : List Draw} {fault : SampleFault}
    (hfault : (g.generateMany accepts budget count draws).fault = some fault) :
    g.Tells accepts (.error fault) := by
  induction count generalizing draws with
  | zero => cases hfault
  | succ count ih =>
      have htells := g.tells_generate accepts budget draws
      rw [generateMany] at hfault
      cases hresult : (g.generate accepts budget draws).result with
      | error first =>
          simp only [hresult, Option.some.injEq] at hfault
          rwa [hresult, hfault] at htells
      | ok found =>
          simp only [hresult] at hfault
          exact ih hfault

/-- **With a patience that is no number, no words are found.** -/
theorem found_eq_nil (hpatience : g.patience.isNumber = false) (accepts : Judge) (budget : Option Int)
    (count : Nat) (draws : List Draw) : (g.generateMany accepts budget count draws).found = [] := by
  cases count with
  | zero => rfl
  | succ count =>
      have htells := g.tells_generate accepts budget draws
      rw [generateMany]
      cases hresult : (g.generate accepts budget draws).result with
      | error fault => rfl
      | ok found =>
          rw [hresult] at htells
          cases hpatience.symm.trans htells

end Generator

/-! ## (3) What is not reported -/

/-- **Faults of sampling that are not reported.** -/
inductive Generator.SampleFault.Unreported : SampleFault → Prop where
  /-- There is a word, but attempts cannot be compared with the patience. -/
  | patience (value : Setting) : Unreported (.incomparable value)
  /-- The criterion can tell nothing of a word. -/
  | judge (fault : Pattern.MatchFault) : Unreported (.unjudged fault)

namespace Command

variable {s : Surroundings} {console : Console} {limit : Nat} {command : Command} {fault : RunFault}

/-- **What breaks a command off**, with a number of draws, because no error is made of it. -/
inductive Unreported (s : Surroundings) (console : Console) (limit : Nat) : Command → RunFault → Prop where
  /-- Without a model there are no numbers. -/
  | stats {m : ModelRequest} {fault : RunFault} (hmodel : m.Unreported s fault) :
    Unreported s console limit (.stats m) fault
  /-- Something is wrong with the criterion or with what the model is built from. -/
  | unprepared {count : Int} {criteria : Option String} {budget : Option Int} {m : ModelRequest}
    {fault : RunFault} (hcount : 0 ≤ count) (hprepare : Unprepared s criteria budget m fault) :
    Unreported s console limit (.generate count criteria budget m) fault
  /-- Something goes wrong with the patience or with the criterion while words are sampled. -/
  | sampling {count : Int} {criteria : Option String} {budget : Option Int} {m : ModelRequest}
    {criterion : Option Criterion} {model : Model} {fault : SampleFault} (hcount : 0 ≤ count)
    (hprepare : prepare s console criteria budget m = .ok (criterion, model))
    (hsamples : (samples model s count.toNat criterion budget limit).fault = some fault)
    (hfault : fault.Unreported) :
    Unreported s console limit (.generate count criteria budget m) (.sampling fault)

/-- Faults of sampling that are not reported break the run off. -/
theorem stopped_of_unreported {fault : SampleFault} (h : fault.Unreported) (console : Console) :
    stopped console (some fault) = .broken (.sampling fault) console := by
  cases h <;> rfl

/-- **What is not reported breaks the run off.** -/
theorem Unreported.run_eq (h : Unreported s console limit command fault) :
    ∃ written, command.run s console limit = .broken fault written := by
  cases h with
  | stats hmodel =>
      refine ⟨console, ?_⟩
      rw [run, runStats, hmodel.build_eq console]
  | unprepared hcount hprepare =>
      refine ⟨console, ?_⟩
      rw [run, runGenerate_of_nonneg hcount, hprepare.prepare_eq console]
  | @sampling count criteria budget m criterion model fault hcount hprepare hsamples hfault =>
      refine ⟨writeFound model.console (samples model s count.toNat criterion budget limit).found, ?_⟩
      rw [run, runGenerate_of_nonneg hcount, hprepare]
      dsimp only
      rw [sampleWords, hsamples, stopped_of_unreported hfault]

/-- **How a run may go**: it needs more draws, has done what it was asked for, has reported an error, or was
broken off for something that is not reported. -/
def Goes (s : Surroundings) (console : Console) (limit : Nat) (command : Command) (outcome : Outcome) :
    Prop :=
  outcome = .undecided ∨ (∃ written, outcome = .finished 0 written) ∨ outcome.Reports
    ∨ ∃ fault written, outcome = .broken fault written ∧ Unreported s console limit command fault

/-- What stops sampling is reported, unless more draws are needed or it is one of the faults that are not. -/
theorem goes_sampleWords {count : Int} {criteria : Option String} {budget : Option Int} {m : ModelRequest}
    {criterion : Option Criterion} (hlined : console.Lined) (hcount : 0 ≤ count) (b : m.Basis s)
    (hbudget : ∀ attempts ∈ budget, 1 ≤ attempts)
    (hprepare : prepare s console criteria budget m = .ok (criterion, b.model console)) :
    Goes s console limit (.generate count criteria budget m)
      (sampleWords (b.model console) s count.toNat criterion budget limit) := by
  set samples := samples (b.model console) s count.toNat criterion budget limit with hsamples
  have hwritten : (writeFound (b.model console).console samples.found).Lined :=
    ((hlined.log _).log _).writeFound _
  show Goes _ _ _ _ (stopped (writeFound (b.model console).console samples.found) samples.fault)
  cases hfault : samples.fault with
  | none => exact .inr (.inl ⟨_, rfl⟩)
  | some fault =>
      have hbroken : fault.Unreported → Goes s console limit (.generate count criteria budget m)
          (stopped (writeFound (b.model console).console samples.found) (some fault)) :=
        fun hunreported => .inr (.inr (.inr ⟨_, _, stopped_of_unreported hunreported _,
          .sampling hcount hprepare hfault hunreported⟩))
      cases b.embodies.stops_of_fault hbudget _ _ hfault with
      | exhausted attempts => exact .inr (.inr (.inl (Outcome.reports_failed hwritten _)))
      | outOfDraws => exact .inl rfl
      | dead draws row hdead => exact .inr (.inr (.inl (Outcome.reports_failed hwritten _)))
      | unjudged cause => exact hbroken (.judge cause)
      | incomparable patience => exact hbroken (.patience patience)

/-- **The run of a command goes in one of these ways.** -/
theorem goes_run (hlined : console.Lined) (s : Surroundings) (limit : Nat) (command : Command) :
    Goes s console limit command (command.run s console limit) := by
  cases command with
  | generate count criteria budget m =>
      rw [run]
      by_cases hcount : 0 ≤ count
      · rw [runGenerate_of_nonneg hcount]
        rcases prepare_outcomes s console criteria budget m with
          ⟨-, outcome, hprepare, hends⟩ | ⟨criterion, b, hbudget, -, -, hprepare⟩
        · rw [hprepare]
          rcases hends.reports_or hlined with hreports | ⟨fault, hbroken, hunprepared⟩
          · exact .inr (.inr (.inl hreports))
          · exact .inr (.inr (.inr ⟨fault, console, hbroken, .unprepared hcount hunprepared⟩))
        · rw [hprepare]
          exact goes_sampleWords hlined hcount b hbudget hprepare
      · rw [runGenerate, if_pos (not_le.mp hcount)]
        exact .inr (.inr (.inl (Outcome.reports_failed hlined _)))
  | stats m =>
      rw [run, runStats]
      rcases m.build_outcomes s console with ⟨⟨b⟩⟩ | ⟨outcome, hbuild, hends⟩
      · obtain ⟨dead, hdead, -⟩ := b.exists_deadRows
        have hrows : (b.model console).generator.table.deadRows = .ok dead := hdead
        rw [b.build_eq console]
        dsimp only
        rw [hrows]
        exact .inr (.inl ⟨_, rfl⟩)
      · rw [hbuild]
        rcases hends.reports_or hlined with hreports | ⟨fault, hbroken, hunreported⟩
        · exact .inr (.inr (.inl hreports))
        · exact .inr (.inr (.inr ⟨fault, console, hbroken, .stats hunreported⟩))

/-- What is prepared without an error comes from all that a model is built from. -/
theorem exists_basis_of_prepare {criteria : Option String} {budget : Option Int} {m : ModelRequest}
    {criterion : Option Criterion} {model : Model}
    (hprepare : prepare s console criteria budget m = .ok (criterion, model)) :
    ∃ b : m.Basis s, criterion? s.engine criteria = .ok criterion
      ∧ model.generator.patience = (m.configuration b.document).patience := by
  rcases prepare_outcomes s console criteria budget m with
    ⟨-, outcome, hother, -⟩ | ⟨given, b, -, hcriterion, -, hsame⟩
  · cases hprepare.symm.trans hother
  · obtain ⟨rfl, rfl⟩ := Prod.mk.inj (Except.ok.inj (hprepare.symm.trans hsame))
    exact ⟨b, hcriterion, b.sameMake.patience_eq⟩

/-- Sampling that stops for a fault does not succeed. -/
theorem fault_eq_none_of_stopped {fault : Option SampleFault} {written : Console}
    (h : stopped console fault = .finished 0 written) : fault = none := by
  unfold stopped at h
  split at h
  · rfl
  · cases h
  · cases h
  · cases h
  · cases h

/-- **With a patience that is no number**, a run that is asked for a word does not succeed. -/
theorem run_ne_finished {count : Int} {criteria : Option String} {budget : Option Int} {m : ModelRequest}
    {document : Setting} (hcount : 1 ≤ count) (hdocument : s.document = .ok document)
    (hpatience : (m.configuration document).patience.isNumber = false) (written : Console) :
    run s console limit (.generate count criteria budget m) ≠ .finished 0 written := by
  intro hrun
  rw [run, runGenerate_of_nonneg (by omega)] at hrun
  cases hprepare : prepare s console criteria budget m with
  | error outcome =>
      rw [hprepare] at hrun
      subst hrun
      rcases prepare_outcomes s console criteria budget m with
        ⟨-, outcome, hother, ⟨text, rfl⟩ | ⟨fault, -, rfl⟩⟩ | ⟨_, b, -, -, -, hother⟩
      · cases hprepare.symm.trans hother
      · cases hprepare.symm.trans hother
      · cases hprepare.symm.trans hother
  | ok prepared =>
      obtain ⟨criterion, model⟩ := prepared
      obtain ⟨b, -, hsame⟩ := exists_basis_of_prepare hprepare
      obtain rfl := Except.ok.inj (hdocument.symm.trans b.document_eq)
      rw [← hsame] at hpatience
      rw [hprepare] at hrun
      -- success means that as many words were found as were asked for, and there are none
      have hfull := (fault_eq_none_iff _ _ _ _ _).mp (fault_eq_none_of_stopped hrun)
      rw [found_eq_nil hpatience] at hfull
      have hzero : count.toNat = 0 := hfull.symm
      omega

/-- **A fault of sampling that is not reported** says that the patience is no number, or that the criterion can
tell nothing of some word. -/
theorem Unreported.tells {count : Int} {criteria : Option String} {budget : Option Int} {m : ModelRequest}
    {cause : SampleFault}
    (h : Unreported s console limit (.generate count criteria budget m) (.sampling cause)) :
    (∃ document, s.document = .ok document ∧ (m.configuration document).patience.isNumber = false)
      ∨ ∃ source ∈ criteria, ∃ criterion word fault, Criterion.ofPattern s.engine source = .ok criterion
        ∧ criterion.accepts s.engine word = .error fault := by
  cases h with
  | unprepared hcount hprepare =>
      cases hprepare with
      | model hbudget hcriterion hmodel => cases hmodel
  | @sampling _ _ _ _ criterion model _ hcount hprepare hsamples hfault =>
      obtain ⟨b, hcriterion, hpatience⟩ := exists_basis_of_prepare hprepare
      have htells := tells_fault hsamples
      cases hfault with
      | patience value =>
          exact .inl ⟨b.document, b.document_eq, hpatience ▸ htells.2⟩
      | judge fault =>
          obtain ⟨word, hword⟩ := htells
          cases criterion with
          | none => cases hword
          | some criterion =>
              rcases criterion?_cases s.engine criteria with
                ⟨-, hnone⟩ | ⟨source, hsource, given, hpattern, hgiven⟩ | ⟨_, -, cause, -, herror⟩
              · cases hcriterion.symm.trans hnone
              · obtain rfl := Option.some.inj (Except.ok.inj (hcriterion.symm.trans hgiven))
                exact .inr ⟨source, hsource, criterion, word, fault, hpattern, hword⟩
              · cases hcriterion.symm.trans herror

end Command

/-! ## (4) What is refused -/

/-- **A request that is refused** because of its configuration: there is no settings document that can be read,
or no generator is described. -/
def ModelRequest.Refuses (m : ModelRequest) (s : Surroundings) (e : ConfigurationError) : Prop :=
  s.document = .error (.refused e)
    ∨ ∃ document, s.document = .ok document ∧ m.generator s.capacity document = .error (.refused e)

/-- What is refused is an error. -/
theorem ModelRequest.Refuses.build_eq {m : ModelRequest} {s : Surroundings} {e : ConfigurationError}
    (h : m.Refuses s e) (console : Console) : m.build s console = .error (.failed console e.message) := by
  rcases h with hdocument | ⟨document, hdocument, hgenerator⟩
  · simp only [build, hdocument, Outcome.misconfigured]
  · simp only [build, hdocument, hgenerator, Outcome.misconfigured]

namespace Command

variable {s : Surroundings} {m : ModelRequest} {command : Command}

/-- **A command that gets as far as building a model**, because its other arguments are in order. -/
inductive Builds (s : Surroundings) (m : ModelRequest) : Command → Prop where
  /-- Numbers need no other arguments. -/
  | stats : Builds s m (.stats m)
  /-- Words need a count, a budget that allows an attempt, and a criterion, if one is given. -/
  | generate {count : Int} {criteria : Option String} {budget : Option Int} {criterion : Option Criterion}
    (hcount : 0 ≤ count) (hbudget : ∀ attempts ∈ budget, 1 ≤ attempts)
    (hcriterion : criterion? s.engine criteria = .ok criterion) :
    Builds s m (.generate count criteria budget m)

/-- **Without a model the run ends** as building it does. -/
theorem Builds.run_eq {console : Console} {outcome : Outcome} (h : Builds s m command)
    (hbuild : m.build s console = .error outcome) (limit : Nat) : command.run s console limit = outcome := by
  cases h with
  | stats => rw [run, runStats, hbuild]
  | generate hcount hbudget hcriterion =>
      rw [run, runGenerate_of_nonneg hcount, prepare_of_one_le hbudget, hcriterion]
      dsimp only
      rw [hbuild]
      rfl

/-- **A configuration that is refused is reported**, in its own words. -/
theorem Builds.run_eq_failed {e : ConfigurationError} (h : Builds s m command) (hrefuses : m.Refuses s e)
    (console : Console) (limit : Nat) : command.run s console limit = .failed console e.message :=
  h.run_eq (hrefuses.build_eq console) limit

end Command

/-! ## (5) What was checked -/

/-- **A request whose values were checked**: no value of the settings document that it uses, and nothing else
that its model is built from, is of a kind that breaks a run off. -/
structure ModelRequest.Checked (m : ModelRequest) (s : Surroundings) : Prop where
  /-- What is wrong with the document is refused. -/
  document : ∀ fault, s.document = .error fault → ∃ e, fault = .refused e
  /-- The alphabet has members. -/
  members : ∀ document, s.document = .ok document → (m.configuration document).alphabet.members? ≠ none
  /-- The table has room. -/
  size : ∀ document, s.document = .ok document → ∀ alphabet order order_pos,
    Configuration.order? (m.configuration document).order = some ⟨order, order_pos⟩ →
    Alphabet.ofSetting (m.configuration document).alphabet = .ok alphabet →
    sizeFault? s.capacity (contexts alphabet order order_pos).rows
      (contexts alphabet order order_pos).columns = none
  /-- The seed can seed a random source. -/
  seed : ∀ document, s.document = .ok document → Seed.ofSetting? (m.configuration document).seed ≠ none
  /-- The patience is a number. -/
  patience : ∀ document, s.document = .ok document → (m.configuration document).patience.isNumber = true
  /-- The dictionary has a place. -/
  path : ∀ fault, m.content s ≠ .error fault

/-- **A criterion that was checked**: it is within what patterns can be. -/
structure Criterion.Checked (engine : Pattern.Engine) (source : String) : Prop where
  /-- If there is no such criterion, a rule of writing is broken. -/
  malformed : ∀ fault, Criterion.ofPattern engine source = .error fault →
    ∃ cause position, fault = .badPattern source (.malformed cause position)
  /-- Of every word it can be told whether it is accepted. -/
  judges : ∀ criterion, Criterion.ofPattern engine source = .ok criterion →
    ∀ word fault, criterion.accepts engine word ≠ .error fault

/-- **A command that was checked**: what its model is built from, and its criterion. -/
inductive Command.Checked (s : Surroundings) : Command → Prop where
  /-- Numbers are told of a model. -/
  | stats {m : ModelRequest} (hmodel : m.Checked s) : Checked s (.stats m)
  /-- Words may be subject to a criterion. -/
  | generate {count : Int} {criteria : Option String} {budget : Option Int} {m : ModelRequest}
    (hmodel : m.Checked s) (hcriteria : ∀ source ∈ criteria, Criterion.Checked s.engine source) :
    Checked s (.generate count criteria budget m)

namespace ModelRequest.Checked

variable {m : ModelRequest} {s : Surroundings}

/-- **Nothing breaks building a model off.** -/
theorem not_unreported (h : m.Checked s) (fault : RunFault) : ¬ m.Unreported s fault := by
  intro hunreported
  cases hunreported with
  | document hdocument hother =>
      obtain ⟨e, he⟩ := h.document _ hdocument
      exact hother e he
  | configuration hdocument hfault =>
      cases hfault with
      | alphabet horder hmembers => exact h.members _ hdocument hmembers
      | size horder halphabet hsize =>
          cases (h.size _ hdocument _ _ _ horder halphabet).symm.trans hsize
      | seed horder halphabet hfits hseed => exact h.seed _ hdocument hseed
  | path hdocument hgenerator hcontent => exact h.path _ hcontent

/-- **The settings document that comes with the program passes the checks**, unless a request names letters or
an order of its own or a dictionary that has no place, if there is room for its table. -/
theorem of_standard (hdocument : s.document = .ok Document.standard) (halphabet : m.alphabet = none)
    (horder : m.order = none) (hcapacity : 19683 ≤ s.capacity) (hpath : ∀ fault, m.content s ≠ .error fault) :
    m.Checked s := by
  have hletters : (m.configuration Document.standard).alphabet = .string "ABCDEFGHIJKLMNOPQRSTUVWXYZ" := by
    rw [configuration, overrides, halphabet]
    rfl
  have htwo : (m.configuration Document.standard).order = .integer 2 := by
    rw [configuration, overrides, horder]
    rfl
  have hseed : (m.configuration Document.standard).seed = (m.seed.map Setting.integer).getD .null := by
    rw [configuration, overrides]
    cases m.seed <;> rfl
  have hsame : ∀ document, s.document = .ok document → document = Document.standard := fun document h =>
    Except.ok.inj (h.symm.trans hdocument)
  refine ⟨fun fault hfault => ?_, fun document h => ?_, fun document h alphabet order order_pos hk ha => ?_,
    fun document h => ?_, fun document h => ?_, hpath⟩
  · cases hfault.symm.trans hdocument
  · rw [hsame document h, hletters]
    nofun
  · rw [hsame document h, htwo] at hk
    rw [hsame document h, hletters] at ha
    obtain rfl : 2 = order := congrArg Subtype.val (Option.some.inj hk)
    have hcount : (Alphabet.ofSetting (.string "ABCDEFGHIJKLMNOPQRSTUVWXYZ")).toOption.map Alphabet.size
        = some 26 := by decide +kernel
    rw [ha] at hcount
    have hsize : alphabet.size = 26 := Option.some.inj hcount
    have hbase : (contexts alphabet 2 order_pos).base = 27 := congrArg (· + 1) hsize
    have horder : (contexts alphabet 2 order_pos).order = 2 := rfl
    rw [sizeFault?_eq_none_iff, ContextSpace.rows_eq_pow, ContextSpace.columns, hbase, horder]
    exact ⟨by decide, hcapacity⟩
  · rw [hsame document h, hseed]
    cases m.seed <;> nofun
  · rw [hsame document h]
    rfl

end ModelRequest.Checked

namespace Command

variable {s : Surroundings} {command : Command}

/-- **Nothing breaks a command off that was checked.** -/
theorem Checked.not_unreported (h : command.Checked s) (console : Console) (limit : Nat) (fault : RunFault) :
    ¬ Unreported s console limit command fault := by
  intro hunreported
  cases h with
  | stats hmodel =>
      cases hunreported with
      | stats hbroken => exact hmodel.not_unreported fault hbroken
  | @generate count criteria budget m hmodel hcriteria =>
      cases hunreported with
      | unprepared hcount hprepare =>
          cases hprepare with
          | criterion hbudget hcriterion hother =>
              rcases criterion?_cases s.engine criteria with
                ⟨-, hnone⟩ | ⟨_, -, given, -, hgiven⟩ | ⟨source, hsource, cause, hpattern, hcause⟩
              · cases hcriterion.symm.trans hnone
              · cases hcriterion.symm.trans hgiven
              · obtain rfl := Except.error.inj (hcriterion.symm.trans hcause)
                obtain ⟨broken, position, hfault⟩ := (hcriteria source hsource).malformed _ hpattern
                exact hother source broken position hfault
          | model hbudget hcriterion hbroken => exact hmodel.not_unreported fault hbroken
      | sampling hcount hprepare hsamples hfault =>
          rcases Unreported.tells (.sampling hcount hprepare hsamples hfault) with
            ⟨document, hdocument, hnot⟩ | ⟨source, hsource, criterion, word, cause, hpattern, hword⟩
          · cases hnot.symm.trans (hmodel.patience document hdocument)
          · exact (hcriteria source hsource).judges criterion hpattern word cause hword

end Command

/-! ## (6) Runs -/

namespace Invocation

/-- **What a run reports.** A configuration that is refused is reported in its own words, provided that the other
arguments let the run get there. What nothing has looked at breaks the run off, and it is not reported. A patience
that is no number does so as soon as there is a word, so that no run succeeds that is asked for one. Had the values
that a run uses been checked, it would succeed or report an error whenever it is decided. -/
theorem reports_run (s : Surroundings) (quiet verbose : Bool) (command : Command) (limit : Nat) :
    let start := console quiet verbose
    let i : Invocation := ⟨quiet, verbose, some command⟩
    (∀ m e, command.Builds s m → m.Refuses s e →
        i.run s limit = .ok (.failed start e.message) ∧ (Outcome.failed start e.message).Reports)
      ∧ (∀ fault, command.Unreported s start limit fault →
        ∃ written, i.run s limit = .ok (.broken fault written))
      ∧ (∀ count criteria budget m document, command = .generate count criteria budget m → 1 ≤ count →
        s.document = .ok document → (m.configuration document).patience.isNumber = false →
        ∀ written, i.run s limit ≠ .ok (.finished 0 written))
      ∧ (command.Checked s →
        i.run s limit = .ok .undecided ∨ (∃ written, i.run s limit = .ok (.finished 0 written))
          ∨ ∃ outcome : Outcome, i.run s limit = .ok outcome ∧ outcome.Reports) := by
  intro start i
  have hrun : i.run s limit = .ok (command.run s start limit) := rfl
  have hlined : start.Lined := Console.Lined.blank _ _
  rw [hrun]
  refine ⟨fun m e hbuilds hrefuses => ?_, fun fault hfault => ?_, ?_, fun hchecked => ?_⟩
  · rw [hbuilds.run_eq_failed hrefuses]
    exact ⟨rfl, Outcome.reports_failed hlined _⟩
  · obtain ⟨written, hbroken⟩ := hfault.run_eq
    exact ⟨written, congrArg Except.ok hbroken⟩
  · rintro count criteria budget m document rfl hcount hdocument hpatience written hfinished
    exact Command.run_ne_finished hcount hdocument hpatience written (Except.ok.inj hfinished)
  · rcases Command.goes_run hlined s limit command with
      hundecided | ⟨written, hdone⟩ | hreports | ⟨fault, written, -, hunreported⟩
    · exact .inl (congrArg Except.ok hundecided)
    · exact .inr (.inl ⟨written, congrArg Except.ok hdone⟩)
    · exact .inr (.inr ⟨_, rfl, hreports⟩)
    · exact absurd hunreported (hchecked.not_unreported start limit fault)

/-- Where the settings document gives no value for the alphabet, the run is broken off: neither has it succeeded
nor has it reported an error. An order of zero is reported. Where the document gives no value for the patience, no
run succeeds that is asked for a word. With the document that comes with the program, the first run would have
succeeded or reported an error. -/
theorem reports_run_nullAlphabet :
    let given (name : String) (value : Setting) : Setting := .table [("generator", .table [(name, value)])]
    let s (document : Setting) : Surroundings := {
      document := .ok document, homes := fun _ => none, directory := "/", links := .none,
      read := fun _ => .ok [0x41, 0x42, 0x0A], capacity := 19683, engine := .standard, entropy := 0 }
    let m : ModelRequest := ⟨"dict.txt", none, none, none⟩
    let i : Invocation := ⟨false, false, some (.stats m)⟩
    ∀ limit, (∃ outcome : Outcome, i.run (s (given "alphabet" .null)) limit = .ok outcome
        ∧ (∃ written, outcome = .broken (.configuration (.notIterable .null)) written)
        ∧ outcome ≠ .undecided ∧ (∀ written, outcome ≠ .finished 0 written) ∧ ¬ outcome.Reports)
      ∧ i.run (s (given "context_order" (.integer 0))) limit
        = .ok (.failed (console false false) "Context order must be a positive integer, got 0")
      ∧ (∀ written, Invocation.run (s (given "slow_attempts_warning" .null))
        ⟨false, false, some (.generate 1 none none m)⟩ limit ≠ .ok (.finished 0 written))
      ∧ (i.run (s Document.standard) limit = .ok .undecided
        ∨ (∃ written, i.run (s Document.standard) limit = .ok (.finished 0 written))
        ∨ ∃ outcome : Outcome, i.run (s Document.standard) limit = .ok outcome ∧ outcome.Reports) := by
  intro given s m i limit
  refine ⟨?_, ?_, ?_, ?_⟩
  · have hunreported : Command.Unreported (s (given "alphabet" .null)) (console false false) limit (.stats m)
        (.configuration (.notIterable .null)) :=
      .stats (.configuration rfl (.alphabet rfl rfl))
    obtain ⟨-, hbroken, -⟩ := reports_run (s (given "alphabet" .null)) false false (.stats m) limit
    obtain ⟨written, hrun⟩ := hbroken _ hunreported
    refine ⟨_, hrun, ⟨written, rfl⟩, nofun, nofun, ?_⟩
    rintro ⟨_, _, _, hreported, -⟩
    cases hreported
  · have hrefuses : m.Refuses (s (given "context_order" (.integer 0))) (.badOrder (.integer 0)) :=
      .inr ⟨_, rfl, rfl⟩
    obtain ⟨hreported, -⟩ :=
      reports_run (s (given "context_order" (.integer 0))) false false (.stats m) limit
    exact (hreported m _ .stats hrefuses).1
  · obtain ⟨-, -, hpatience, -⟩ := reports_run (s (given "slow_attempts_warning" .null)) false false
      (.generate 1 none none m) limit
    exact hpatience 1 none none m _ rfl le_rfl rfl rfl
  · have hplace : (m.content (s Document.standard)).toOption.isSome = true := by decide +kernel
    have hchecked : m.Checked (s Document.standard) := by
      refine .of_standard rfl rfl rfl le_rfl fun fault hfault => ?_
      rw [hfault] at hplace
      cases hplace
    obtain ⟨-, -, -, hgoes⟩ := reports_run (s Document.standard) false false (.stats m) limit
    exact hgoes (.stats hchecked)

end Invocation

end Pseudoword
