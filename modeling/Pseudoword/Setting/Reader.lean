import Pseudoword.Setting
import Pseudoword.Text.Integer

/-! # Reading settings documents

A settings document is one value: null, true, false, a number, a text in quotation marks, a sequence
in brackets or a table in braces. Blanks between the parts are spaces and line ends, and a document
of blanks alone has no value. A number with an exponent is a number only if it has a point and the
exponent has a sign; written otherwise, it is a text. A text may run over several lines, which are
folded into one. The name of an entry stands on one line with the colon after it.

* `Setting.parse?` — the value that a text spells, unless it is malformed.
* `Setting.read` — the value of a document, in which names are unique and integers not too long.
-/

namespace Pseudoword.Setting

/-- Whether a character may stand between the parts of a document. -/
def isLayout (c : Char) : Bool :=
  c == ' ' || c == '\n' || c == '\r'

/-- Drop blanks. -/
def skipLayout (cs : List Char) : List Char :=
  cs.dropWhile isLayout

/-- Whether a document may hold a character at all. -/
def isDocumentChar (c : Char) : Bool :=
  let n := c.toNat
  n == 0x09 || n == 0x0A || n == 0x0D || (0x20 ≤ n && n ≤ 0x7E) || n == 0x85
    || (0xA0 ≤ n && n ≤ 0xFFFD) || 0x10000 ≤ n

/-- The value of a hexadecimal digit. -/
def hexDigit? (c : Char) : Option Nat :=
  if c.isDigit then some (c.toNat - '0'.toNat)
  else if 'a' ≤ c ∧ c ≤ 'f' then some (c.toNat - 'a'.toNat + 10)
  else if 'A' ≤ c ∧ c ≤ 'F' then some (c.toNat - 'A'.toNat + 10)
  else none

/-- The code unit that four hexadecimal digits spell. -/
def unit? (a b c d : Char) : Option Nat := do
  return (((← hexDigit? a) * 16 + (← hexDigit? b)) * 16 + (← hexDigit? c)) * 16 + (← hexDigit? d)

/-- The characters that a backslash and a letter stand for. -/
def shortEscape? : Char → Option Char
  | '\x22' => some '\x22'
  | '\\' => some '\\'
  | '/' => some '/'
  | 'b' => some '\x08'
  | 'f' => some '\x0c'
  | 'n' => some '\n'
  | 'r' => some '\r'
  | 't' => some '\t'
  | _ => none

/-! ## Texts -/

/-- Whether a character inside a text ends a line. -/
def isLineEnd (c : Char) : Bool :=
  c == '\u0085' || c == '\u2028' || c == '\u2029'

/-- What a line end that is kept stands for. -/
def keptLineEnd (c : Char) : Char :=
  if c == '\u0085' then '\n' else c

/-- Whether a line starts with the mark between two documents. -/
def startsDocument (cs : List Char) : Bool :=
  (cs.take 3 == ['-', '-', '-'] || cs.take 3 == ['.', '.', '.'])
    && (cs[3]?).all fun c => c == ' ' || isLineEnd c

/-- Drop the blanks and line ends that follow a line end, which must not be followed by the mark
between two documents. The line ends are kept apart. -/
def dropLineEnds? (lineStart : Bool) : List Char → Option (List Char × List Char)
  | [] => some ([], [])
  | c :: cs =>
    if lineStart && startsDocument (c :: cs) then none
    else if c == ' ' then dropLineEnds? false cs
    else if isLineEnd c then
      (dropLineEnds? true cs).map fun (ends, rest) => (keptLineEnd c :: ends, rest)
    else some ([], c :: cs)

theorem length_dropLineEnds?_le {lineStart : Bool} {cs ends rest : List Char}
    (h : dropLineEnds? lineStart cs = some (ends, rest)) : rest.length ≤ cs.length := by
  induction cs generalizing lineStart ends with
  | nil => simp_all [dropLineEnds?]
  | cons c cs ih =>
    rw [dropLineEnds?] at h
    split at h
    · cases h
    · split at h
      · exact Nat.le_succ_of_le (ih h)
      · split at h
        · obtain ⟨⟨ends', rest'⟩, h', heq⟩ := Option.map_eq_some_iff.1 h
          cases heq
          exact Nat.le_succ_of_le (ih h')
        · cases h
          exact Nat.le_refl _

/-- What the first of several line ends and the others stand for: a lone one is a blank, and before
others it is dropped. A separator of lines or paragraphs stands for itself. -/
def folded (first : Char) (others : List Char) : List Char :=
  if first == '\u0085' then if others.isEmpty then [' '] else others
  else first :: others

/-- Read a text after its opening quotation mark. Blanks around a line end are dropped, so they are
only counted until the next character is known. A character beyond the Basic Multilingual Plane may
be escaped as two code units. -/
def readString? (taken : List Char) (blanks : Nat) : List Char → Option (String × List Char)
  | [] => none
  | '\x22' :: cs => some (String.ofList (withBlanks taken blanks).reverse, cs)
  | ' ' :: cs => readString? taken (blanks + 1) cs
  | '\\' :: 'u' :: a :: b :: c :: d :: '\\' :: 'u' :: e :: f :: g :: h :: cs => do
    let taken := withBlanks taken blanks
    let high ← unit? a b c d
    let low ← unit? e f g h
    if 0xD800 ≤ high ∧ high < 0xDC00 ∧ 0xDC00 ≤ low ∧ low < 0xE000 then
      readString? (Char.ofNat (0x10000 + (high - 0xD800) * 0x400 + (low - 0xDC00)) :: taken) 0 cs
    else if 0xD800 ≤ high ∧ high < 0xE000 then none
    else if 0xD800 ≤ low ∧ low < 0xE000 then
      readString? (Char.ofNat high :: taken) 0 ('\\' :: 'u' :: e :: f :: g :: h :: cs)
    else readString? (Char.ofNat low :: Char.ofNat high :: taken) 0 cs
  | '\\' :: 'u' :: a :: b :: c :: d :: cs => do
    let code ← unit? a b c d
    if 0xD800 ≤ code ∧ code < 0xE000 then none
    else readString? (Char.ofNat code :: withBlanks taken blanks) 0 cs
  | '\\' :: c :: cs => do
    let c ← shortEscape? c
    readString? (c :: withBlanks taken blanks) 0 cs
  | c :: cs =>
    if isLineEnd c then
      match h : dropLineEnds? true cs with
      | none => none
      | some (ends, rest) =>
        have := length_dropLineEnds?_le h
        readString? ((folded c ends).reverse ++ taken) 0 rest
    else if c.toNat < 0x20 then none
    else readString? (c :: withBlanks taken blanks) 0 cs
termination_by cs => cs.length
where
  /-- The characters taken so far, in reverse, with blanks after them. -/
  withBlanks (taken : List Char) (blanks : Nat) : List Char :=
    List.replicate blanks ' ' ++ taken

/-! ## Numbers -/

/-- The parts of a number as it is written. -/
structure Numeral where
  /-- Whether it starts with a minus sign. -/
  negative : Bool
  /-- The digits before the point. -/
  whole : List Char
  /-- The digits after the point, if there is one. -/
  fraction : Option (List Char)
  /-- The sign and the digits of the exponent, if there is one. -/
  exponent : Option (Option Char × List Char)

/-- The number that decimal digits spell. -/
def decimal (cs : List Char) : Nat :=
  cs.foldl (fun n c => 10 * n + (c.toNat - '0'.toNat)) 0

/-- Read the digits before the point: a zero, or digits that start with another one. -/
def readWhole? (cs : List Char) : Option (List Char × List Char) :=
  match cs with
  | '0' :: cs => some (['0'], cs)
  | c :: cs =>
    if c.isDigit then some (c :: cs.takeWhile Char.isDigit, cs.dropWhile Char.isDigit) else none
  | [] => none

/-- Read the digits after the point, if there is a point. -/
def readFraction? (cs : List Char) : Option (Option (List Char) × List Char) :=
  match cs with
  | '.' :: cs =>
    let digits := cs.takeWhile Char.isDigit
    if digits.isEmpty then none else some (some digits, cs.dropWhile Char.isDigit)
  | cs => some (none, cs)

/-- Read the exponent, if there is one. -/
def readExponent? (cs : List Char) : Option (Option (Option Char × List Char) × List Char) :=
  match cs with
  | c :: cs =>
    if c == 'e' || c == 'E' then
      let (sign, cs) :=
        match cs with
        | '+' :: cs => (some '+', cs)
        | '-' :: cs => (some '-', cs)
        | cs => (none, cs)
      let digits := cs.takeWhile Char.isDigit
      if digits.isEmpty then none else some (some (sign, digits), cs.dropWhile Char.isDigit)
    else some (none, c :: cs)
  | [] => some (none, [])

/-- Read a number as it is written. -/
def readNumeral? (cs : List Char) : Option (Numeral × List Char) := do
  let (negative, cs) :=
    match cs with
    | '-' :: cs => (true, cs)
    | cs => (false, cs)
  let (whole, cs) ← readWhole? cs
  let (fraction, cs) ← readFraction? cs
  let (exponent, cs) ← readExponent? cs
  return (⟨negative, whole, fraction, exponent⟩, cs)

/-- The value of a number, given the characters that spell it. -/
def Numeral.value (numeral : Numeral) (written : List Char) : Setting :=
  match numeral.fraction, numeral.exponent with
  | none, none =>
    let n : Int := decimal numeral.whole
    .integer (if numeral.negative then -n else n)
  | some fraction, none =>
    .real numeral.negative (.ofDecimal (decimal (numeral.whole ++ fraction)) (-fraction.length))
  | some fraction, some (some sign, digits) =>
    let e : Int := decimal digits
    let exponent := if sign == '-' then -e else e
    .real numeral.negative
      (.ofDecimal (decimal (numeral.whole ++ fraction)) (exponent - fraction.length))
  | _, _ => .string (String.ofList written)

/-! ## Values -/

/-- Drop a word if the text starts with it. -/
def dropWord? (word : String) (cs : List Char) : Option (List Char) :=
  if word.toList.isPrefixOf cs then some (cs.drop word.length) else none

/-- The most characters from the start of a name to the colon after it. -/
def maxNameLength : Nat := 1024

/-- Read a name and the colon after it, which have to stand on one line and not too far apart. -/
def readName? (cs : List Char) : Option (String × List Char) :=
  match cs with
  | '\x22' :: quoted => do
    let (name, rest) ← readString? [] 0 quoted
    let ':' :: rest := skipLayout rest | none
    let written := cs.take (cs.length - (rest.length + 1))
    if written.length ≤ maxNameLength
        ∧ written.all fun c => c != '\n' && c != '\r' && !isLineEnd c then
      return (name, rest)
    else none
  | _ => none

mutual

/-- Read a value, after the blanks before it. Every nested value takes at least one character, so
the length of the text is enough fuel. -/
def readValue? : Nat → List Char → Option (Setting × List Char)
  | 0, _ => none
  | fuel + 1, cs =>
    match skipLayout cs with
    | '\x22' :: cs => (readString? [] 0 cs).map fun (s, cs) => (.string s, cs)
    | '[' :: cs =>
      match skipLayout cs with
      | ']' :: cs => some (.list [], cs)
      | cs => (readItems? fuel cs).map fun (items, cs) => (.list items, cs)
    | '\x7b' :: cs =>
      match skipLayout cs with
      | '\x7d' :: cs => some (.table [], cs)
      | cs => (readEntries? fuel cs).map fun (entries, cs) => (.table entries, cs)
    | cs =>
      if let some rest := dropWord? "null" cs then some (.null, rest)
      else if let some rest := dropWord? "true" cs then some (.boolean true, rest)
      else if let some rest := dropWord? "false" cs then some (.boolean false, rest)
      else (readNumeral? cs).map fun (numeral, rest) =>
        (numeral.value (cs.take (cs.length - rest.length)), rest)

/-- Read the items of a sequence up to its closing bracket. -/
def readItems? : Nat → List Char → Option (List Setting × List Char)
  | 0, _ => none
  | fuel + 1, cs => do
    let (item, cs) ← readValue? fuel cs
    match skipLayout cs with
    | ']' :: cs => return ([item], cs)
    | ',' :: cs =>
      let (items, cs) ← readItems? fuel cs
      return (item :: items, cs)
    | _ => none

/-- Read the entries of a table up to its closing brace. -/
def readEntries? : Nat → List Char → Option (List (String × Setting) × List Char)
  | 0, _ => none
  | fuel + 1, cs => do
    let (name, cs) ← readName? (skipLayout cs)
    let (value, cs) ← readValue? fuel cs
    match skipLayout cs with
    | '\x7d' :: cs => return ([(name, value)], cs)
    | ',' :: cs =>
      let (entries, cs) ← readEntries? fuel cs
      return ((name, value) :: entries, cs)
    | _ => none

end

/-! ## Documents -/

mutual

/-- A value in which each name of a table is mentioned once: the last mention gives the value, and the
first one the place. -/
def merged : Setting → Setting
  | .list items => .list (mergedItems items)
  | .table entries => .table (mergedEntries [] entries)
  | value => value

/-- Values in which each name of a table is mentioned once. -/
def mergedItems : List Setting → List Setting
  | [] => []
  | item :: items => item.merged :: mergedItems items

/-- The entries of a table after others, with each name mentioned once. -/
def mergedEntries (known : List (String × Setting)) :
    List (String × Setting) → List (String × Setting)
  | [] => known
  | (name, value) :: entries => mergedEntries (put name value.merged known) entries

end

/-- An integer with too many digits. -/
structure LongInteger where
  /-- In how many values it stands. -/
  depth : Nat
  /-- How many digits it has. -/
  digits : Nat
  deriving DecidableEq, Repr

mutual

/-- The integers with too many digits in a value that stands in a number of others. -/
def longIntegers (depth : Nat) : Setting → List LongInteger
  | .integer n =>
    let digits := (toString n.natAbs).length
    if Text.maxIntegerDigits < digits then [⟨depth, digits⟩] else []
  | .list items => longIntegersOf (depth + 1) items
  | .table entries => longIntegersIn (depth + 1) entries
  | _ => []

/-- The integers with too many digits in several values. -/
def longIntegersOf (depth : Nat) : List Setting → List LongInteger
  | [] => []
  | item :: items => item.longIntegers depth ++ longIntegersOf depth items

/-- The integers with too many digits in the entries of a table. -/
def longIntegersIn (depth : Nat) : List (String × Setting) → List LongInteger
  | [] => []
  | (_, value) :: entries => value.longIntegers depth ++ longIntegersIn depth entries

end

/-- Which integer with too many digits is met first. Those that stand in fewer values are met before
the others. -/
def firstLong? : List LongInteger → Option LongInteger
  | [] => none
  | n :: ns =>
    match firstLong? ns with
    | none => some n
    | some m => if m.depth < n.depth then some m else some n

/-- Why there is no value in a document. -/
inductive Fault where
  /-- The text is malformed. -/
  | malformed
  /-- An integer has too many digits. -/
  | tooManyDigits (count : Nat)
  deriving DecidableEq, Repr

/-- The value that the text of a document spells, with all mentions of names. -/
def parse? (cs : List Char) : Option Setting :=
  if !cs.all isDocumentChar then none
  else if (skipLayout cs).isEmpty then some .null
  else
    match readValue? (cs.length + 1) cs with
    | some (value, rest) => if (skipLayout rest).isEmpty then some value else none
    | none => none

/-- The value of a document, or why there is none. -/
def read (document : String) : Except Fault Setting :=
  match parse? document.toList with
  | none => .error .malformed
  | some value =>
    match firstLong? (value.longIntegers 0) with
    | some n => .error (.tooManyDigits n.digits)
    | none => .ok value.merged

end Pseudoword.Setting
