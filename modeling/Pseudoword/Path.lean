import Pseudoword.Setting

/-! # Paths

Where a file is, told by the directories on the way to it. A path that a caller gives may start with
the mark of a home directory and may be relative to a base directory. There may be links on the way,
which lead elsewhere or around in a circle.

* `Path.expandHome` — a path with the home directory in place of its mark.
* `Path.tidy` — a path without empty and idle parts.
* `Path.normal` — a path with the steps up carried out.
* `Path.Links`, `Links.none` — where ways lead, and where they do without links.
* `Path.resolve` — the place that a value names.
-/

namespace Pseudoword.Path

/-- Why a value names no place. -/
inductive Fault where
  /-- There is no value. -/
  | missing
  /-- A character cannot stand in a path. -/
  | nullCharacter
  /-- The links on the way lead around in a circle. -/
  | circle (path : String)
  deriving DecidableEq, Repr

/-- The wording of a fault. -/
def Fault.message : Fault → String
  | .missing => "path value is required"
  | .nullCharacter => "embedded null byte"
  | .circle path => "Symlink loop from " ++ Text.quoted path

/-- The pieces of a path between its slashes. -/
def pieces : List Char → List (List Char)
  | [] => [[]]
  | c :: cs =>
    match pieces cs with
    | [] => [[c]]
    | piece :: later => if c == '/' then [] :: piece :: later else (c :: piece) :: later

/-- The parts of a path that lead somewhere: neither empty nor the mark of the same directory. -/
def parts (path : String) : List String :=
  ((pieces path.toList).map String.ofList).filter fun part => !part.isEmpty && part != "."

/-- Whether a path starts at the root. -/
def isAbsolute (path : String) : Bool :=
  path.startsWith "/"

/-- What a path starts with: two slashes are a root of their own, any other number is one. -/
def root (path : String) : String :=
  let slashes := (path.toList.takeWhile (· == '/')).length
  if slashes = 0 then "" else if slashes = 2 then "//" else "/"

/-- A path without empty and idle parts. -/
def tidy (path : String) : String :=
  let text := root path ++ "/".intercalate (parts path)
  if text.isEmpty then "." else text

/-- Walk on through parts, where two dots lead up and the root is its own parent. The directories
on the way are listed in reverse. -/
def walk (way : List String) : List String → List String
  | [] => way.reverse
  | part :: parts => if part = ".." then walk way.tail parts else walk (part :: way) parts

/-- The absolute path that leads through parts, with the steps up carried out. -/
def normal (parts : List String) : String :=
  "/" ++ "/".intercalate (walk [] parts)

/-- Where ways from the root lead, told by their parts: to the place at their end, with the links
followed and the steps up carried out, unless the links lead around in a circle. -/
abbrev Links := List String → Except Fault String

/-- Where ways lead if there are no links. -/
def Links.none : Links :=
  fun parts => .ok (normal parts)

/-- A path with the home directory in place of its mark, a tilde and the name of a user at the start.
Where there is no such home directory the mark is taken as it is. -/
def expandHome (homes : String → Option String) (path : String) : String :=
  match path.toList with
  | '~' :: cs =>
    match homes (String.ofList (cs.takeWhile (· != '/'))) with
    | none => path
    | some home =>
      let home := String.ofList (home.toList.reverse.dropWhile (· == '/')).reverse
      let expanded := home ++ String.ofList (cs.dropWhile (· != '/'))
      if expanded.isEmpty then "/" else expanded
  | _ => path

/-- The place that a value names. An absolute path keeps its steps up and its links; a relative one is
joined to the base directory, and then they are followed. -/
def resolve (homes : String → Option String) (links : Links) (base : String) (value : Setting) :
    Except Fault String :=
  match value with
  | .null => .error .missing
  | value =>
    let path := expandHome homes value.text
    if isAbsolute path then .ok (tidy path)
    else if path.toList.contains '\x00' then .error .nullCharacter
    else links (parts base ++ parts path)

end Pseudoword.Path
