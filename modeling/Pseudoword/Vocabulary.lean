import Pseudoword.Error
import Pseudoword.Log
import Pseudoword.Text.Blank
import Pseudoword.Text.Casing
import Pseudoword.Text.Utf8

/-! # Vocabularies

A vocabulary is a sequence of lines, each with a word and perhaps something about the word. A line
may be a text or bytes that ought to spell one; it is looked at only when its turn comes.

* `Entry`, `Line` — what a line holds, and a line.
* `Vocabulary.parseLine` — the word of a line and what follows it.
* `Vocabulary.entries` — the entries of lines, up to the first line that cannot be read.
* `Vocabulary.cutLines` — the lines of a file.
-/

namespace Pseudoword

/-- A line of a vocabulary, as it comes. -/
inductive Line where
  /-- A text. -/
  | text (s : String)
  /-- Bytes that ought to spell a text. -/
  | bytes (bs : List UInt8)
  deriving DecidableEq, Repr

/-- What a line holds. -/
structure Entry where
  /-- The place of the line, counted from one. -/
  number : Nat
  /-- The word. -/
  word : String
  /-- What is said about the word. -/
  remark : Option String
  deriving DecidableEq, Repr

/-- Why a line cannot be used. -/
inductive LineFault where
  /-- Its bytes spell no text. -/
  | badText (fault : Text.Utf8.Fault)
  /-- Its word is refused. -/
  | badWord (error : TrainError)
  deriving DecidableEq, Repr

/-- A line that cannot be used. -/
structure LoadError where
  /-- The place of the line, counted from one. -/
  number : Nat
  /-- The word on it, or the whole line if it is no text. -/
  word : String
  /-- Why it cannot be used. -/
  fault : LineFault
  deriving DecidableEq, Repr

/-- The reason in words. -/
def LineFault.message : LineFault → String
  | .badText fault => "not valid UTF-8: " ++ fault.message
  | .badWord error => error.toError.message

/-- The error that a caller is told of when a line cannot be used. -/
def LoadError.toError (e : LoadError) : Error :=
  .vocabularyLoad e.number e.word (some e.fault.message)

namespace Vocabulary

/-- The word of a line and what follows it after a space, both without blanks at their ends; nothing
if the line is blank. -/
def parseLine (line : String) : Option (String × Option String) :=
  let cs := Text.trim line.toList
  if cs.isEmpty then none
  else
    let remark := Text.trim ((cs.dropWhile (· != ' ')).drop 1)
    some (String.ofList (cs.takeWhile (· != ' ')),
      if remark.isEmpty then none else some (String.ofList remark))

/-- The text of a line. -/
def textOf : Line → Except Text.Utf8.Fault String
  | .text s => .ok s
  | .bytes bs => Text.Utf8.decode bs

/-- A line as messages show it. -/
def shownLine : Line → String
  | .text s => Text.strip s
  | .bytes bs => Text.strip (Text.Utf8.decodeLossy bs)

/-- The entry of a line, if it is not blank. The word is put into upper case on request. -/
def entry? (uppercase : Bool) (number : Nat) (line : Line) : Except LoadError (Option Entry) :=
  match textOf line with
  | .error fault => .error ⟨number, shownLine line, .badText fault⟩
  | .ok s =>
    .ok <| (parseLine s).map fun (word, remark) =>
      ⟨number, if uppercase then Text.upper word else word, remark⟩

/-- The entries of lines, of which the first has the given place, and the line that put an end to
them. -/
def entriesFrom (uppercase : Bool) (number : Nat) : List Line → List Entry × Option LoadError
  | [] => ([], none)
  | line :: lines =>
    match entry? uppercase number line with
    | .error e => ([], some e)
    | .ok entry =>
      let (entries, e) := entriesFrom uppercase (number + 1) lines
      (entry.toList ++ entries, e)

/-- The entries of lines, and the line that put an end to them. -/
def entries (uppercase : Bool) (lines : List Line) : List Entry × Option LoadError :=
  entriesFrom uppercase 1 lines

/-- The byte that ends a line. -/
def lineFeed : UInt8 := 0x0A

/-- The lines of a file. A line feed belongs to the line that it ends. -/
def cutLines (content : List UInt8) : List (List UInt8) :=
  content.splitBy fun b _ => b != lineFeed

/-- The lines of a file, as they come. -/
def linesOf (content : List UInt8) : List Line :=
  (cutLines content).map .bytes

/-- The entries of a file, all of whose lines have to be readable. -/
def load (uppercase : Bool) (content : List UInt8) : Except LoadError (List Entry) :=
  match entries uppercase (linesOf content) with
  | (_, some e) => .error e
  | (entries, none) => .ok entries

/-- The report of having read a file. -/
def loadRecord (count : Nat) (name : String) : LogRecord :=
  ⟨.debug, "vocabulary", "Loaded " ++ toString count ++ " entries from " ++ name⟩

end Vocabulary
end Pseudoword
