import Pseudoword.Path

/-! # File trees

The files and directories that a command can look at.

* `FileTree.ofEntries` — the tree with given directories and files in a directory.
* `FileTree.read` — the content of a file, or why it cannot be read.
-/

namespace Pseudoword

/-- Why a file cannot be read. -/
inductive ReadFault where
  /-- Nothing is there. -/
  | missing
  /-- What is there is a directory. -/
  | directory
  /-- The way there leads through a file. -/
  | notDirectory
  /-- A name on the way, or the way itself, is too long. -/
  | tooLong
  /-- Something else, in the words of the system. -/
  | other (text : String)
  deriving DecidableEq, Repr

/-- The wording of a fault. -/
def ReadFault.message : ReadFault → String
  | .missing => "No such file or directory"
  | .directory => "Is a directory"
  | .notDirectory => "Not a directory"
  | .tooLong => "File name too long"
  | .other text => text

/-- Files and directories, each told by the way to it from the root. -/
structure FileTree where
  /-- Directories. The directories on the way to one exist as well. -/
  directories : List (List String)
  /-- Files and their contents. -/
  files : List (List String × List UInt8)

namespace FileTree

/-- The tree with given directories and files, whose names are relative to a directory. -/
def ofEntries (base : String) (directories : List String)
    (files : List (String × List UInt8)) : FileTree :=
  let way (name : String) := Path.walk [] (Path.parts base ++ Path.parts name)
  ⟨way "" :: directories.map way, files.map fun (name, content) => (way name, content)⟩

variable (t : FileTree)

/-- Whether a way leads to a directory, which it does if it goes on to something. -/
def isDirectory (way : List String) : Bool :=
  way.isEmpty || t.directories.any way.isPrefixOf
    || t.files.any fun (file, _) => way.isPrefixOf file && way != file

/-- The most bytes of a name. -/
def maxName : Nat := 255

/-- The least number of bytes that is too much for a path. -/
def pathLimit : Nat := 4096

/-- Follow parts from a directory on. -/
def follow (way : List String) : List String → Except ReadFault (List UInt8)
  | [] => .error .directory
  | part :: parts =>
    let next := if part = ".." then way.dropLast else way ++ [part]
    if maxName < part.utf8ByteSize then .error .tooLong
    else if t.isDirectory next then follow next parts
    else
      match t.files.lookup next with
      | none => .error .missing
      | some content => if parts.isEmpty then .ok content else .error .notDirectory

/-- The content of the file that an absolute path leads to. -/
def read (path : String) : Except ReadFault (List UInt8) :=
  if pathLimit ≤ path.utf8ByteSize then .error .tooLong else t.follow [] (Path.parts path)

end FileTree
end Pseudoword
