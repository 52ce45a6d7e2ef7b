import Pseudoword.CommandLine.Command
import Pseudoword.Configuration.Document
import Pseudoword.Console
import Pseudoword.Criterion
import Pseudoword.FileTree
import Pseudoword.Generator.Sampling
import Pseudoword.Vocabulary.Training

/-! # Running commands

A command builds a model from the settings document and a dictionary, and then samples words from it
or describes it. The draws of a run are prepared beforehand; a run for which they do not suffice has
no outcome yet.

* `Surroundings` — what a run depends on besides its command.
* `Outcome` — how a run ended.
* `Command.buildModel`, `Command.run` — build a model, and carry out a command.
-/

namespace Pseudoword

/-- What a run depends on besides its command. -/
structure Surroundings where
  /-- The values of the settings document, or why there are none. -/
  document : Except ConfigurationFault Setting
  /-- The home directories of users, and of the present one under no name. -/
  homes : String → Option String
  /-- The working directory. -/
  directory : String
  /-- Where ways through directories lead. -/
  links : Path.Links
  /-- The content of the file that a path leads to. -/
  read : String → Except ReadFault (List UInt8)
  /-- The most cells of a table that fit into memory. -/
  capacity : Int
  /-- What patterns run on. -/
  engine : Pattern.Engine
  /-- What the random source starts from if no seed is given. -/
  entropy : Nat

/-- Something that no command reports, because it takes a configuration that makes no sense. -/
inductive RunFault where
  /-- The configuration makes no sense. -/
  | configuration (fault : ConfigurationFault)
  /-- The criterion is beyond what patterns can be. -/
  | criterion (fault : CriterionFault)
  /-- The dictionary has no place. -/
  | path (fault : Path.Fault)
  /-- Learning went wrong. -/
  | training (fault : InternalFault)
  /-- Sampling went wrong. -/
  | sampling (fault : Generator.SampleFault)
  /-- A table went wrong. -/
  | table (fault : TableFault)

/-- The wording of a fault. -/
def RunFault.message : RunFault → String
  | .configuration fault => fault.message
  | .criterion fault => fault.message
  | .path fault => fault.message
  | .training fault => fault.message
  | .sampling fault => fault.message
  | .table fault => fault.message

/-- How a run ended. -/
inductive Outcome where
  /-- With a status, after writing on a console. -/
  | finished (status : Nat) (console : Console)
  /-- With something that is not reported, after writing on a console. -/
  | broken (fault : RunFault) (console : Console)
  /-- Not yet, because more draws are needed. -/
  | undecided

instance : Inhabited Outcome := ⟨.undecided⟩

/-- A model that is ready to be used. -/
structure Model where
  /-- What was learned. -/
  generator : Generator
  /-- The seed of the random source. -/
  seed : Seed
  /-- What was written on the way. -/
  console : Console

namespace Outcome

/-- A run that ends with an error. -/
def failed (console : Console) (text : String) : Outcome :=
  .finished 1 (console.error text)

/-- A run that ends because of its configuration: a refusal is reported, and nothing else is. -/
def misconfigured (console : Console) : ConfigurationFault → Outcome
  | .refused e => .failed console e.message
  | fault => .broken (.configuration fault) console

/-- A run that ends because of its criterion: a text that breaks a rule of writing is reported, and
nothing else is. -/
def badCriterion (console : Console) : CriterionFault → Outcome
  | .badPattern source (.malformed fault position) =>
    .failed console ("Invalid criteria argument: " ++ source ++ " ("
      ++ (PatternError.malformed fault position).message source ++ ")")
  | fault => .broken (.criterion fault) console

/-- The status that a run leaves behind. One that is broken off has failed. -/
def status? : Outcome → Option Nat
  | .finished status _ => some status
  | .broken .. => some 1
  | .undecided => none

/-- What a run has written. -/
def console? : Outcome → Option Console
  | .finished _ console => some console
  | .broken _ console => some console
  | .undecided => none

end Outcome

namespace ModelRequest

/-- The values that a request sets over those of the document. -/
def overrides (m : ModelRequest) : Configuration.Overrides :=
  ⟨(m.alphabet.map Setting.string).getD .null, (m.order.map Setting.integer).getD .null,
    (m.seed.map Setting.integer).getD .null, .null⟩

/-- The generator that a request describes, before it has learned anything, and its seed, where a number
of cells fit into memory. -/
def generator (m : ModelRequest) (capacity : Int) (document : Setting) :
    Except ConfigurationFault (Generator × Seed) :=
  Generator.ofConfiguration capacity ((Configuration.ofDocument document).override m.overrides)

/-- The content of the dictionary. -/
def content (m : ModelRequest) (s : Surroundings) :
    Except Path.Fault (Except ReadFault (List UInt8)) :=
  match Path.resolve s.homes s.links s.directory (.string m.dictionary) with
  | .error fault => .error fault
  | .ok path => if path.toList.contains '\x00' then .error .nullCharacter else .ok (s.read path)

/-- Build a model: look at the configuration, then open the dictionary, learn its words and compile.
What goes wrong is the outcome of the run. -/
def build (m : ModelRequest) (s : Surroundings) (console : Console) : Except Outcome Model :=
  match s.document with
  | .error fault => .error (.misconfigured console fault)
  | .ok document =>
    match m.generator s.capacity document with
    | .error fault => .error (.misconfigured console fault)
    | .ok (generator, seed) =>
      match m.content s with
      | .error fault => .error (.broken (.path fault) console)
      | .ok (.error fault) =>
        .error (.failed console ("Cannot open file " ++ m.dictionary ++ ": " ++ fault.message))
      | .ok (.ok bytes) =>
        match generator.trainLines (Document.uppercase document) (Vocabulary.linesOf bytes) with
        | (_, .error (.line e)) => .error (.failed console e.toError.message)
        | (_, .error (.internal fault)) => .error (.broken (.training fault) console)
        | (generator, .ok learned) =>
          let console := console.log (Generator.trainLinesRecord learned)
          .ok ⟨generator.compile, seed, console.log generator.table.compileRecord⟩

end ModelRequest

namespace Command

/-! ## Sampling words -/

/-- The criterion that an argument gives, where an empty one gives none. -/
def criterion? (engine : Pattern.Engine) :
    Option String → Except CriterionFault (Option Criterion)
  | none => .ok none
  | some source =>
    if source.isEmpty then .ok none else (Criterion.ofPattern engine source).map some

/-- Write words and the reports about them. -/
def writeFound (console : Console) (found : List Generator.Found) : Console :=
  found.foldl
    (fun console f => (console.log (Generator.foundRecord f)).result [.string f.word]) console

/-- The judge that a criterion makes. Without one every word is accepted. -/
def judge (engine : Pattern.Engine) : Option Criterion → Generator.Judge
  | none => fun _ => .ok true
  | some criterion => fun word => criterion.accepts engine word

/-- What is sampled from a model, using a number of draws at most. -/
def samples (model : Model) (s : Surroundings) (count : Nat) (criterion : Option Criterion)
    (budget : Option Int) (limit : Nat) : Generator.Samples :=
  let draws := (model.seed.source s.entropy).draws limit
  model.generator.generateMany (judge s.engine criterion) budget count draws

/-- How a run ends that stops sampling, with as many words as were asked for or with a fault. -/
def stopped (console : Console) : Option Generator.SampleFault → Outcome
  | none => .finished 0 console
  | some .outOfDraws => .undecided
  | some (.attemptsExhausted attempts) =>
    .failed console (Generator.SampleFault.attemptsExhausted attempts).message
  | some (.deadState row) => .failed console (Generator.SampleFault.deadState row).message
  | some fault => .broken (.sampling fault) console

/-- Sample words from a model and write them, using a number of draws at most. -/
def sampleWords (model : Model) (s : Surroundings) (count : Nat) (criterion : Option Criterion)
    (budget : Option Int) (limit : Nat) : Outcome :=
  let samples := samples model s count criterion budget limit
  stopped (writeFound model.console samples.found) samples.fault

/-- Look at the budget and the criterion, and then build the model. What goes wrong is the outcome of
the run. -/
def prepare (s : Surroundings) (console : Console) (criteria : Option String) (budget : Option Int)
    (m : ModelRequest) : Except Outcome (Option Criterion × Model) :=
  if budget.any (· < 1) then
    .error (.failed console ("--max-attempts must be positive, got " ++ toString (budget.getD 0)))
  else
    match criterion? s.engine criteria with
    | .error fault => .error (.badCriterion console fault)
    | .ok criterion => (m.build s console).map fun model => (criterion, model)

/-- Carry out the command for words: look at the count and the other arguments, build the model and
sample. -/
def runGenerate (s : Surroundings) (console : Console) (count : Int) (criteria : Option String)
    (budget : Option Int) (m : ModelRequest) (limit : Nat) : Outcome :=
  if count < 0 then .failed console ("count must not be negative, got " ++ toString count)
  else
    match prepare s console criteria budget m with
    | .error outcome => outcome
    | .ok (criterion, model) => sampleWords model s count.toNat criterion budget limit

/-! ## Describing a model -/

/-- The numbers that describe a model, under their names. -/
def statistics (g : Generator) (dead : Nat) : List (String × Setting) :=
  [("alphabet", .string g.alphabet.symbols), ("alphabet size", .integer g.alphabet.size),
    ("context order", .integer g.order), ("rows", .integer g.table.rows),
    ("columns", .integer g.table.columns), ("vocabulary", .integer g.vocabulary.size),
    ("observations", .integer g.table.observations), ("dead rows", .integer dead)]

/-- Write the numbers that describe a model: as a table, or one to a line if only results are
wanted. -/
def writeStatistics (console : Console) (dictionary : String) (rows : List (String × Setting)) :
    Console :=
  if console.quiet then
    rows.foldl (fun c (name, value) => c.result [.string (name ++ ": " ++ value.text)]) console
  else
    let console := console.print [.string ("Model trained on " ++ dictionary ++ "\n")]
    let rows := rows.map fun (name, value) => [.string name, value]
    (console.table [.string "Statistic", .string "Value"] rows []).getD console

/-- Carry out the command for numbers. -/
def runStats (s : Surroundings) (console : Console) (m : ModelRequest) : Outcome :=
  match m.build s console with
  | .error outcome => outcome
  | .ok model =>
    match model.generator.table.deadRows with
    | .error fault => .broken (.table fault) model.console
    | .ok dead =>
      .finished 0 (writeStatistics model.console m.dictionary (statistics model.generator dead))

/-- Carry out a command, using a number of draws at most. -/
def run (s : Surroundings) (console : Console) (limit : Nat) : Command → Outcome
  | .generate count criteria budget m => runGenerate s console count criteria budget m limit
  | .stats m => runStats s console m

end Command

/-- Carry out the command of a command line, using a number of draws at most. Without a command help
is given. -/
def Invocation.run (s : Surroundings) (i : Invocation) (limit : Nat) :
    Except CommandLine.Stop Outcome :=
  let console := Console.blank i.quiet (if i.verbose then .debug else .warning)
  match i.command with
  | none => .error .help
  | some command => .ok (command.run s console limit)

end Pseudoword
