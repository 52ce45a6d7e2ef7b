import Pseudoword.CommandLine.Run

/-! # The program

Reads the command line, gives the run its surroundings, and writes what the run has written. A run
that is undecided for want of draws is carried out once more with more of them. -/

namespace Pseudoword

/-- The fault that an error of the system stands for. -/
def readFault : IO.Error → ReadFault
  | .noFileOrDirectory .. => .missing
  | .inappropriateType _ _ details =>
    if details = "is a directory" then .directory
    else if details = "not a directory" then .notDirectory
    else .other details
  | .invalidArgument _ _ details => .other details
  | e => .other (toString e)

/-- The content of a file. -/
def readContent (path : String) : IO (Except ReadFault (List UInt8)) := do
  try
    let content ← IO.FS.readBinFile path
    return .ok content.toList
  catch e =>
    return .error (readFault e)

/-- The most cells that the program allows a table. -/
def allowedCells : Int := 0x100000000

/-- The file that an invocation will want to read, if any. -/
def wantedFile (s : Surroundings) (i : Invocation) : Option String :=
  let model? := i.command.map fun
    | .generate _ _ _ m => m
    | .stats m => m
  match model?.map fun m => Path.resolve s.homes s.links s.directory (.string m.dictionary) with
  | some (.ok path) => some path
  | _ => none

/-- Carry out an invocation with more and more draws until it is decided. -/
partial def runToEnd (s : Surroundings) (i : Invocation) (limit : Nat) :
    Except CommandLine.Stop Outcome :=
  match i.run s limit with
  | .ok .undecided => runToEnd s i (4 * limit)
  | decided => decided

/-- Write what a run has written, and give its status. -/
def report : Except CommandLine.Stop Outcome → IO UInt32
  | .error .help => do
    IO.print Invocation.help
    return 0
  | .error .version => do
    IO.print Invocation.version
    return 0
  | .error .misuse => do
    IO.eprint Invocation.help
    return 2
  | .ok outcome => do
    if let some console := outcome.console? then
      IO.print console.output
      IO.eprint console.errors
    if let .broken fault _ := outcome then IO.eprintln fault.message
    return UInt32.ofNat (outcome.status?.getD 1)

end Pseudoword

open Pseudoword in
/-- Carry out the command that the arguments ask for. -/
def main (args : List String) : IO UInt32 := do
  match Invocation.read args with
  | .error stop => report (.error stop)
  | .ok i =>
    let home ← IO.getEnv "HOME"
    let homes (user : String) : Option String := if user.isEmpty then home else none
    let directory ← IO.currentDir
    let entropy ← IO.rand 0 0x3FFFFFFFFFFFFFFF
    -- links are left to the system, which follows them when it opens a file
    let blind : Surroundings :=
      ⟨.ok Document.standard, homes, directory.toString, .none, fun _ => .error .missing, allowedCells,
        .standard, entropy⟩
    let content ← match wantedFile blind i with
      | some path => readContent path
      | none => pure (.error .missing)
    report (runToEnd { blind with read := fun _ => content } i 1024)
