import Mathlib
import Pseudoword.CommandLine.Run
import Pseudoword.Proofs.Lines

/-! # Building models

Both commands build a model first, and for that a settings document, a configuration, a dictionary and
each of its lines have to be in order. What they hold when they are is gathered in one structure, so that
whatever is said of a run can start from there: there is such a structure exactly if a model is built,
and it determines the model.

* **`Outcome.Leaves`** — the status and the results that an outcome leaves behind, and
  **`Outcome.Fails`**, when it has failed and what may be to blame.
* **`Outcome.Ends`** — an outcome that reports an error or was broken off.
* **`ModelRequest.Basis`** — what a request finds when a model can be built from it.
* **`ModelRequest.Basis.build_eq`** — the model that is built, and **`ModelRequest.Basis.embodies`**, the
  words that it has learned.
* **`ModelRequest.Unreported`** — what breaks building off, because no error is made of it.
* **`ModelRequest.build_outcomes`** — without a model, the run ends with an error or is broken off for one of
  these, and **`ModelRequest.build_cases`**, nothing was written as a result. -/

namespace Pseudoword

open Generator Vocabulary

/-! ## (1) What is left behind -/

/-- **An outcome leaves behind** a status, and results. -/
structure Outcome.Leaves (outcome : Outcome) (status : Nat) (output : String) : Prop where
  /-- The status of the run. -/
  status_eq : outcome.status? = some status
  /-- The results that were written. -/
  output_eq : outcome.console?.map Console.output = some output

/-- **What a run may be broken off for**: something that it was given, and no check inside. -/
inductive RunFault.IsGiven : RunFault → Prop where
  /-- The configuration has a fault that is more than a refusal. -/
  | configuration {fault : ConfigurationFault} (h : ∀ e, fault ≠ .refused e) :
    IsGiven (.configuration fault)
  /-- The criterion has a fault that is more than bad writing. -/
  | criterion {fault : CriterionFault}
      (h : ∀ source cause position, fault ≠ .badPattern source (.malformed cause position)) :
    IsGiven (.criterion fault)
  /-- The dictionary has no place. -/
  | path (fault : Path.Fault) : IsGiven (.path fault)
  /-- Attempts cannot be compared with the patience of the configuration. -/
  | patience (value : Setting) : IsGiven (.sampling (.incomparable value))
  /-- The criterion can tell nothing of a word. -/
  | judge (fault : Pattern.MatchFault) : IsGiven (.sampling (.unjudged fault))

/-- **An outcome that has failed**, after results were written. -/
structure Outcome.Fails (outcome : Outcome) (output : String) : Prop extends
    outcome.Leaves 1 output where
  /-- If the run was broken off, something that it was given is to blame. -/
  isGiven : ∀ fault console, outcome = .broken fault console → fault.IsGiven

namespace Outcome

/-- A run that ends with an error has failed, and keeps the results that were written before. -/
theorem fails_failed (console : Console) (text : String) :
    (Outcome.failed console text).Fails console.output :=
  ⟨⟨rfl, rfl⟩, fun _ _ h => nomatch h⟩

/-- So has a run that is broken off. -/
theorem fails_broken {fault : RunFault} (h : fault.IsGiven) (console : Console) :
    (Outcome.broken fault console).Fails console.output := by
  refine ⟨⟨rfl, rfl⟩, fun fault' console' hbroken => ?_⟩
  cases hbroken
  exact h

/-- **An outcome that ends with an error**: the error is reported, or the run was broken off for a fault that
is not. -/
def Ends (outcome : Outcome) (console : Console) (unreported : RunFault → Prop) : Prop :=
  (∃ text, outcome = .failed console text)
    ∨ ∃ fault, unreported fault ∧ outcome = .broken fault console

variable {outcome : Outcome} {console : Console} {unreported : RunFault → Prop}

theorem Ends.mono {others : RunFault → Prop} (h : outcome.Ends console unreported)
    (hle : ∀ fault, unreported fault → others fault) : outcome.Ends console others :=
  h.imp_right fun ⟨fault, hfault, heq⟩ => ⟨fault, hle fault hfault, heq⟩

/-- A run that ends with an error has failed. -/
theorem Ends.fails (h : outcome.Ends console unreported)
    (hgiven : ∀ fault, unreported fault → fault.IsGiven) : outcome.Fails console.output := by
  rcases h with ⟨text, rfl⟩ | ⟨fault, hfault, rfl⟩
  · exact fails_failed console text
  · exact fails_broken (hgiven fault hfault) console

/-- A configuration with a fault that is no refusal breaks a run off. -/
theorem misconfigured_of_ne_refused {fault : ConfigurationFault} (h : ∀ e, fault ≠ .refused e) :
    Outcome.misconfigured console fault = .broken (.configuration fault) console := by
  cases fault with
  | refused e => exact absurd rfl (h e)
  | _ => rfl

/-- So does a criterion with a fault that is more than bad writing. -/
theorem badCriterion_of_ne_malformed {fault : CriterionFault}
    (h : ∀ source cause position, fault ≠ .badPattern source (.malformed cause position)) :
    Outcome.badCriterion console fault = .broken (.criterion fault) console := by
  unfold badCriterion
  split
  · exact absurd rfl (h _ _ _)
  · rfl

/-- A refusal of a configuration is reported, and nothing else that is wrong with one. -/
theorem ends_misconfigured (console : Console) (fault : ConfigurationFault) :
    (Outcome.misconfigured console fault).Ends console fun broken =>
      broken = .configuration fault ∧ ∀ e, fault ≠ .refused e := by
  by_cases h : ∃ e, fault = .refused e
  · obtain ⟨e, rfl⟩ := h
    exact .inl ⟨e.message, rfl⟩
  · have hother : ∀ e, fault ≠ .refused e := not_exists.mp h
    exact .inr ⟨_, ⟨rfl, hother⟩, misconfigured_of_ne_refused hother⟩

/-- Bad writing of a criterion is reported, and nothing else that is wrong with one. -/
theorem ends_badCriterion (console : Console) (fault : CriterionFault) :
    (Outcome.badCriterion console fault).Ends console fun broken =>
      broken = .criterion fault
        ∧ ∀ source cause position, fault ≠ .badPattern source (.malformed cause position) := by
  unfold badCriterion
  split
  · exact .inl ⟨_, rfl⟩
  · next hother => exact .inr ⟨_, ⟨rfl, hother⟩, rfl⟩

end Outcome

/-- Reports are no results. -/
@[simp] theorem Console.output_log (console : Console) (r : LogRecord) :
    (console.log r).output = console.output := by
  rw [Console.log]
  split <;> rfl

/-- Reports do not change what is left out. -/
@[simp] theorem Console.quiet_log (console : Console) (r : LogRecord) :
    (console.log r).quiet = console.quiet := by
  rw [Console.log]
  split <;> rfl

/-! ## (2) What a model is built from -/

/-- The configuration that a request finds in a document. -/
def ModelRequest.configuration (m : ModelRequest) (document : Setting) : Configuration :=
  (Configuration.ofDocument document).override m.overrides

/-- **What a model is built from**: a settings document with a configuration that makes sense, and a
dictionary of which every line can be used. -/
structure ModelRequest.Basis (m : ModelRequest) (s : Surroundings) where
  /-- The values of the settings document. -/
  document : Setting
  document_eq : s.document = .ok document
  /-- The letters. -/
  alphabet : Alphabet
  alphabet_eq : Alphabet.ofSetting (m.configuration document).alphabet = .ok alphabet
  /-- The order of contexts. -/
  order : Nat
  order_pos : 0 < order
  order_eq : Configuration.order? (m.configuration document).order = some ⟨order, order_pos⟩
  /-- There is room for the table. -/
  fits : sizeFault? s.capacity (contexts alphabet order order_pos).rows
    (contexts alphabet order order_pos).columns = none
  /-- The seed of the random source. -/
  seed : Seed
  seed_eq : Seed.ofSetting? (m.configuration document).seed = some seed
  /-- The content of the dictionary. -/
  content : List UInt8
  content_eq : m.content s = .ok (.ok content)
  /-- Every line of the dictionary can be used. -/
  usable : ∀ line ∈ linesOf content, ¬ Bad alphabet (Document.uppercase document) line

/-- The word of a line that can be used can be spelled. -/
theorem Vocabulary.spells_of_not_bad {a : Alphabet} {uppercase : Bool} {line : Line} {word : String}
    (hgood : ¬ Bad a uppercase line) (hword : wordOf? uppercase line = some word) : a.Spells word :=
  ⟨wordOf?_ne_empty hword, fun c hc => by_contra fun hforeign =>
    hgood (.inr ⟨word, hword, c, hc, hforeign⟩)⟩

namespace ModelRequest

variable {m : ModelRequest} {s : Surroundings} {console : Console}

namespace Basis

variable (b : m.Basis s)

/-- Whether words are put into upper case. -/
def uppercase : Bool := Document.uppercase b.document

/-- **The words of the dictionary**, as they are learned. -/
def words : List String := (linesOf b.content).filterMap (wordOf? b.uppercase)

/-- The generator before it has learned anything. -/
def blank : Generator :=
  untrained b.alphabet b.order b.order_pos (m.configuration b.document).patience

/-- The generator that has learned the words of the dictionary. -/
def trained : Generator := (b.blank.trainAll b.words).1

/-- **The model**, with the reports of how it was built. -/
def model (console : Console) : Model :=
  ⟨b.trained.compile, b.seed,
    (console.log (trainLinesRecord b.words.length)).log b.trained.table.compileRecord⟩

theorem spells {word : String} (h : word ∈ b.words) : b.alphabet.Spells word := by
  obtain ⟨line, hline, hword⟩ := List.mem_filterMap.mp h
  exact spells_of_not_bad (b.usable line hline) hword

/-- The generator has the alphabet, order and patience of the configuration. -/
theorem sameMake : b.blank.SameMake b.trained.compile :=
  sameMake_run b.blank [.trainAll b.words, .compile]

theorem embodies_blank : b.blank.Embodies [] [] :=
  Embodies.untrained b.alphabet b.order b.order_pos _

/-- All words of the dictionary are learned. -/
theorem learnedFrom_words : b.blank.learnedFrom b.words = b.words := by
  rw [b.embodies_blank.learnedFrom_eq, List.takeWhile_eq_self_iff]
  intro word hword
  have hspells : b.blank.alphabet.Spells word := b.spells hword
  exact decide_eq_true hspells

/-- **The model has learned the words of the dictionary**, and they are settled. -/
theorem embodies : b.trained.compile.Embodies b.words b.words := by
  have htrained : b.trained.Embodies _ [] := b.embodies_blank.trainAllFrom 0 b.words
  rw [b.learnedFrom_words, List.nil_append] at htrained
  exact htrained.compile

/-- The configuration gives the generator, before it has learned anything. -/
theorem generator_eq : m.generator s.capacity b.document = .ok (b.blank, b.seed) := by
  show ofConfiguration s.capacity (m.configuration b.document) = _
  simp only [ofConfiguration, b.order_eq, b.alphabet_eq, b.fits, b.seed_eq]
  rfl

/-- Learning from the lines of the dictionary does not fail. -/
theorem trainLines_eq : b.blank.trainLines b.uppercase (linesOf b.content)
    = (b.trained, .ok b.words.length) := by
  have hcount : b.words.length = (linesOf b.content).countP (!isBlankLine ·) :=
    length_filterMap_wordOf? fun line hline hbad => b.usable line hline (.inl hbad)
  rw [hcount]
  exact (b.embodies_blank.trainLines_of_good b.usable).2

/-- **The model is built** from what is found. -/
theorem build_eq (console : Console) : m.build s console = .ok (b.model console) := by
  have hlines := b.trainLines_eq
  rw [uppercase] at hlines
  simp only [build, b.document_eq, b.generator_eq, b.content_eq, hlines, model]

end Basis

end ModelRequest

/-! ## (3) When there is no model -/

section Configuration

variable {capacity : Int} {c : Configuration}

/-- **What is wrong with a configuration and not reported**: values that nothing looked at before they were
used. The order is checked first, and then each value is used after those before it. -/
inductive Configuration.Unreported (capacity : Int) (c : Configuration) : ConfigurationFault → Prop where
  /-- The alphabet has no members. -/
  | alphabet {order : Nat} {order_pos : 0 < order}
    (horder : Configuration.order? c.order = some ⟨order, order_pos⟩) (hmembers : c.alphabet.members? = none) :
    Unreported capacity c (.notIterable c.alphabet)
  /-- The table has more cells than fit into memory. -/
  | size {alphabet : Alphabet} {order : Nat} {order_pos : 0 < order} {fault : SizeFault}
    (horder : Configuration.order? c.order = some ⟨order, order_pos⟩)
    (halphabet : Alphabet.ofSetting c.alphabet = .ok alphabet)
    (hsize : sizeFault? capacity (contexts alphabet order order_pos).rows
      (contexts alphabet order order_pos).columns = some fault) :
    Unreported capacity c (.tooLarge fault)
  /-- The seed cannot seed a random source. -/
  | seed {alphabet : Alphabet} {order : Nat} {order_pos : 0 < order}
    (horder : Configuration.order? c.order = some ⟨order, order_pos⟩)
    (halphabet : Alphabet.ofSetting c.alphabet = .ok alphabet)
    (hfits : sizeFault? capacity (contexts alphabet order order_pos).rows
      (contexts alphabet order order_pos).columns = none)
    (hseed : Seed.ofSetting? c.seed = none) :
    Unreported capacity c .badSeed

/-- What is not reported is no refusal. -/
theorem Configuration.Unreported.ne_refused {fault : ConfigurationFault} (h : c.Unreported capacity fault)
    (e : ConfigurationError) : fault ≠ .refused e := by
  cases h <;> exact fun heq => by cases heq

/-- A value without members is no alphabet. -/
theorem Alphabet.ofSetting_of_members_eq_none {value : Setting} (h : value.members? = none) :
    Alphabet.ofSetting value = .error (.notIterable value) := by
  rw [Alphabet.ofSetting, h]

/-- A value that is no alphabet is refused, unless it has no members. -/
theorem Alphabet.ofSetting_eq_error {value : Setting} {fault : ConfigurationFault}
    (h : Alphabet.ofSetting value = .error fault) :
    (∃ e, fault = .refused e) ∨ value.members? = none ∧ fault = .notIterable value := by
  rw [Alphabet.ofSetting] at h
  cases hmembers : value.members? with
  | none =>
      rw [hmembers] at h
      exact .inr ⟨rfl, (Except.error.inj h).symm⟩
  | some symbols =>
      simp only [hmembers] at h
      cases hsymbols : Alphabet.ofSymbols symbols with
      | error e =>
          rw [hsymbols] at h
          exact .inl ⟨e, (Except.error.inj h).symm⟩
      | ok alphabet =>
          rw [hsymbols] at h
          cases h

/-- **A configuration** either is refused, or has something wrong with it that is not reported, or describes
a generator, with a seed. -/
theorem ofConfiguration_cases (capacity : Int) (c : Configuration) :
    (∃ e, ofConfiguration capacity c = .error (.refused e))
      ∨ (∃ fault, c.Unreported capacity fault ∧ ofConfiguration capacity c = .error fault)
      ∨ ∃ alphabet order order_pos seed, Configuration.order? c.order = some ⟨order, order_pos⟩
        ∧ Alphabet.ofSetting c.alphabet = .ok alphabet
        ∧ sizeFault? capacity (contexts alphabet order order_pos).rows
          (contexts alphabet order order_pos).columns = none
        ∧ Seed.ofSetting? c.seed = some seed
        ∧ ofConfiguration capacity c = .ok (untrained alphabet order order_pos c.patience, seed) := by
  rw [ofConfiguration]
  split
  · exact .inl ⟨_, rfl⟩
  · next order order_pos horder =>
    split
    · next fault halphabet =>
      rcases Alphabet.ofSetting_eq_error halphabet with ⟨e, rfl⟩ | ⟨hmembers, rfl⟩
      · exact .inl ⟨e, rfl⟩
      · exact .inr (.inl ⟨_, .alphabet horder hmembers, rfl⟩)
    · next alphabet halphabet =>
      dsimp only
      split
      · next fault hsize => exact .inr (.inl ⟨_, .size horder halphabet hsize, rfl⟩)
      · next hfits =>
        split
        · next hseed => exact .inr (.inl ⟨_, .seed horder halphabet hfits hseed, rfl⟩)
        · next seed hseed =>
          exact .inr (.inr ⟨alphabet, order, order_pos, seed, horder, halphabet, hfits, hseed, rfl⟩)

/-- **What is not reported keeps a generator from being built.** -/
theorem Configuration.Unreported.ofConfiguration_eq {fault : ConfigurationFault}
    (h : c.Unreported capacity fault) : ofConfiguration capacity c = .error fault := by
  cases h with
  | alphabet horder hmembers =>
      simp only [ofConfiguration, horder, Alphabet.ofSetting_of_members_eq_none hmembers]
  | size horder halphabet hsize => simp only [ofConfiguration, horder, halphabet, hsize]
  | seed horder halphabet hfits hseed => simp only [ofConfiguration, horder, halphabet, hfits, hseed]

end Configuration

namespace ModelRequest

variable {m : ModelRequest} {s : Surroundings} {console : Console}

/-- **What breaks building off, because no error is made of it.** -/
inductive Unreported (m : ModelRequest) (s : Surroundings) : RunFault → Prop where
  /-- The settings document has a fault that is more than a refusal. -/
  | document {fault : ConfigurationFault} (hdocument : s.document = .error fault)
    (hother : ∀ e, fault ≠ .refused e) : Unreported m s (.configuration fault)
  /-- The configuration has a value that nothing has looked at. -/
  | configuration {document : Setting} {fault : ConfigurationFault} (hdocument : s.document = .ok document)
    (hfault : (m.configuration document).Unreported s.capacity fault) : Unreported m s (.configuration fault)
  /-- The dictionary has no place. -/
  | path {document : Setting} {made : Generator × Seed} {fault : Path.Fault}
    (hdocument : s.document = .ok document) (hgenerator : m.generator s.capacity document = .ok made)
    (hcontent : m.content s = .error fault) : Unreported m s (.path fault)

namespace Unreported

variable {fault : RunFault}

/-- All of this was given. -/
theorem isGiven (h : m.Unreported s fault) : fault.IsGiven := by
  cases h with
  | document hdocument hother => exact .configuration hother
  | configuration hdocument hfault => exact .configuration hfault.ne_refused
  | path hdocument hgenerator hcontent => exact .path _

/-- **It breaks building off.** -/
theorem build_eq (h : m.Unreported s fault) (console : Console) :
    m.build s console = .error (.broken fault console) := by
  cases h with
  | document hdocument hother => simp only [build, hdocument, Outcome.misconfigured_of_ne_refused hother]
  | @configuration document fault hdocument hfault =>
      have hgenerator : m.generator s.capacity document = .error fault := hfault.ofConfiguration_eq
      simp only [build, hdocument, hgenerator, Outcome.misconfigured_of_ne_refused hfault.ne_refused]
  | path hdocument hgenerator hcontent => simp only [build, hdocument, hgenerator, hcontent]

end Unreported

/-- **Either there is all that a model is built from**, or building one ends with an error. -/
theorem build_outcomes (m : ModelRequest) (s : Surroundings) (console : Console) :
    Nonempty (m.Basis s)
      ∨ ∃ outcome, m.build s console = .error outcome ∧ outcome.Ends console (m.Unreported s) := by
  cases hdocument : s.document with
  | error fault =>
    refine .inr ⟨_, by simp only [build, hdocument], (Outcome.ends_misconfigured console fault).mono ?_⟩
    rintro _ ⟨rfl, hother⟩
    exact .document hdocument hother
  | ok document =>
    rcases ofConfiguration_cases s.capacity (m.configuration document) with
      ⟨e, hrefused⟩ | ⟨fault, hunreported, hfault⟩
        | ⟨alphabet, order, order_pos, seed, horder, halphabet, hfits, hseed, hblank⟩
    · have hgenerator : m.generator s.capacity document = .error (.refused e) := hrefused
      exact .inr ⟨.misconfigured console (.refused e), by simp only [build, hdocument, hgenerator],
        .inl ⟨e.message, rfl⟩⟩
    · have hbroken : m.Unreported s (.configuration fault) := .configuration hdocument hunreported
      exact .inr ⟨_, hbroken.build_eq console, .inr ⟨_, hbroken, rfl⟩⟩
    · have hgenerator : m.generator s.capacity document = .ok _ := hblank
      cases hcontent : m.content s with
      | error fault =>
        have hbroken : m.Unreported s (.path fault) := .path hdocument hgenerator hcontent
        exact .inr ⟨_, hbroken.build_eq console, .inr ⟨_, hbroken, rfl⟩⟩
      | ok read =>
        cases read with
        | error fault =>
          exact .inr ⟨.failed console ("Cannot open file " ++ m.dictionary ++ ": " ++ fault.message),
            by simp only [build, hdocument, hgenerator, hcontent], .inl ⟨_, rfl⟩⟩
        | ok content =>
          -- the first line that cannot be used is what learning fails on
          by_cases hsome : ∃ line ∈ linesOf content, Bad alphabet (Document.uppercase document) line
          · obtain ⟨before, line, after, hlines, hbefore, hbad⟩ := exists_first _ hsome
            have hembodies := Embodies.untrained alphabet order order_pos
              (m.configuration document).patience
            obtain ⟨-, e, -, hrun⟩ : _ ∧ ∃ e, _ ∧ Generator.trainLines _ _ (before ++ line :: after)
                = (_, .error (.line e)) := hembodies.trainLines_of_first_bad hbefore hbad
            rw [← hlines] at hrun
            exact .inr ⟨.failed console e.toError.message,
              by simp only [build, hdocument, hgenerator, hcontent, hrun], .inl ⟨_, rfl⟩⟩
          · exact .inl ⟨⟨document, hdocument, alphabet, halphabet, order, order_pos, horder, hfits, seed,
              hseed, content, hcontent, fun line hline hbad => hsome ⟨line, hline, hbad⟩⟩⟩

/-- **Either there is all that a model is built from**, or building one fails, and the run with it:
nothing more was written as a result. -/
theorem build_cases (m : ModelRequest) (s : Surroundings) (console : Console) :
    Nonempty (m.Basis s)
      ∨ ∃ outcome, m.build s console = .error outcome ∧ outcome.Fails console.output :=
  (m.build_outcomes s console).imp_right fun ⟨outcome, hbuild, hends⟩ =>
    ⟨outcome, hbuild, hends.fails fun _ hfault => hfault.isGiven⟩

end ModelRequest
end Pseudoword
