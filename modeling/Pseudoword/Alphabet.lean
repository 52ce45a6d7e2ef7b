import Pseudoword.Error

/-! # Alphabets

An alphabet fixes the letters that words are made of and numbers them in order; a letter's number is
its code. Two characters stand for the start and the end of a word and belong to no alphabet.

* `Alphabet` — distinct letters, at least one, none of them reserved.
* `Alphabet.ofSetting` — the alphabet that a value describes, or the first thing wrong with it.
* `Alphabet.letterAt`, `Alphabet.code?` — letters and their codes.
* `Alphabet.encode`, `Alphabet.decode` — words and lists of codes.
-/

namespace Pseudoword

/-- The character that pads the context at the start of a word. -/
def startMark : Char := '^'

/-- The character that marks the end of a word. -/
def endMark : Char := '$'

/-- Whether a character is reserved. -/
def isReserved (c : Char) : Bool :=
  c == startMark || c == endMark

/-- The letters that words are made of, in the order of their codes. -/
structure Alphabet where
  /-- The letters. -/
  letters : List Char
  /-- There is a letter. -/
  letters_ne_nil : letters ≠ []
  /-- The letters are distinct. -/
  letters_nodup : letters.Nodup
  /-- No letter is reserved. -/
  letters_unreserved : ∀ c ∈ letters, isReserved c = false
  deriving DecidableEq

namespace Alphabet

/-! ## Construction -/

/-- The single character that a value is, if it is one. -/
def letter? : Setting → Option Char
  | .string s =>
    match s.toList with
    | [c] => some c
    | _ => none
  | _ => none

/-- Check that a value may be the next letter after others. -/
def checkLetter (earlier : List Char) (symbol : Setting) : Except ConfigurationError Char :=
  match letter? symbol with
  | none => .error (.notOneCharacter symbol)
  | some c =>
    if isReserved c then .error (.reservedSymbol c)
    else if c ∈ earlier then .error (.duplicateSymbol c)
    else .ok c

/-- Check letters one by one, after others. The first one that will not do decides the error. -/
def checkLetters (earlier : List Char) : List Setting → Except ConfigurationError (List Char)
  | [] => .ok []
  | symbol :: symbols =>
    match checkLetter earlier symbol with
    | .error e => .error e
    | .ok c =>
      match checkLetters (c :: earlier) symbols with
      | .error e => .error e
      | .ok cs => .ok (c :: cs)

theorem checkLetter_eq_ok {earlier : List Char} {symbol : Setting} {c : Char}
    (h : checkLetter earlier symbol = .ok c) :
    letter? symbol = some c ∧ isReserved c = false ∧ c ∉ earlier := by
  unfold checkLetter at h
  split at h
  · cases h
  · split at h
    · cases h
    · split at h
      · cases h
      · cases h
        simp_all

/-- Letters that pass the check are distinct, unreserved and different from the earlier ones. -/
theorem checkLetters_eq_ok {earlier : List Char} {symbols : List Setting} {cs : List Char}
    (h : checkLetters earlier symbols = .ok cs) :
    cs.length = symbols.length ∧ cs.Nodup ∧ (∀ c ∈ cs, isReserved c = false)
      ∧ ∀ c ∈ cs, c ∉ earlier := by
  induction symbols generalizing earlier cs with
  | nil => cases h; simp
  | cons symbol symbols ih =>
    rw [checkLetters] at h
    split at h
    · cases h
    · next c hc =>
      split at h
      · cases h
      · next ds hds =>
        cases h
        obtain ⟨-, hr, hn⟩ := checkLetter_eq_ok hc
        obtain ⟨hl, hd, hu, he⟩ := ih hds
        refine ⟨by simp [hl], ?_, ?_, ?_⟩
        · exact List.nodup_cons.2 ⟨fun hm => he c hm (by simp), hd⟩
        · intro d hm
          rcases List.mem_cons.1 hm with rfl | hm
          · exact hr
          · exact hu d hm
        · intro d hm
          rcases List.mem_cons.1 hm with rfl | hm
          · exact hn
          · exact fun h => he d hm (by simp [h])

/-- The alphabet with the given letters, in order. -/
def ofSymbols (symbols : List Setting) : Except ConfigurationError Alphabet :=
  match h : checkLetters [] symbols with
  | .error e => .error e
  | .ok cs =>
    if hne : cs = [] then .error .noSymbols
    else
      .ok ⟨cs, hne, (checkLetters_eq_ok h).2.1, (checkLetters_eq_ok h).2.2.1⟩

/-- The alphabet that a value describes: a text gives its characters and a sequence its items. Other
values have no members to take letters from. -/
def ofSetting (value : Setting) : Except ConfigurationFault Alphabet :=
  match value.members? with
  | none => .error (.notIterable value)
  | some symbols => (ofSymbols symbols).mapError .refused

/-! ## Letters and codes -/

/-- How many letters there are. -/
def size (a : Alphabet) : Nat :=
  a.letters.length

theorem size_pos (a : Alphabet) : 0 < a.size :=
  List.length_pos_iff.2 a.letters_ne_nil

/-- The letters as a text. -/
def symbols (a : Alphabet) : String :=
  String.ofList a.letters

/-- The code of a letter. -/
def code? (a : Alphabet) (c : Char) : Option Nat :=
  a.letters.idxOf? c

/-- Whether a character is a letter of the alphabet. -/
def contains (a : Alphabet) (c : Char) : Bool :=
  a.letters.contains c

/-- The letter with a code, where codes below zero count from the end. -/
def letterAt? (a : Alphabet) (code : Int) : Option Char :=
  if 0 ≤ code then a.letters[code.toNat]?
  else if -code ≤ a.size then a.letters[(a.size + code).toNat]?
  else none

/-- Why there is no letter with a code. -/
inductive CodeFault where
  /-- The code is out of range. -/
  | foreign
  /-- The code is no index at all. -/
  | misfit
  deriving DecidableEq, Repr

/-- The wording of a fault. -/
def CodeFault.message : CodeFault → String
  | .foreign => "tuple index out of range"
  | .misfit => indexMisfit

/-- The letter with a code, where codes below zero count from the end; or why there is none. -/
def letterAt (a : Alphabet) (code : Int) : Except CodeFault Char :=
  match a.letterAt? code with
  | some c => .ok c
  | none => .error (if isIndex code then .foreign else .misfit)

/-- How messages show an alphabet. -/
def shown (a : Alphabet) : String :=
  "Alphabet(" ++ Text.quoted a.symbols ++ ")"

/-! ## Words and lists of codes -/

/-- A character of a word that is no letter, and how many letters stand before it. -/
structure ForeignCharacter where
  /-- The character. -/
  character : Char
  /-- Its position in the word. -/
  position : Nat
  deriving DecidableEq, Repr

/-- The codes of characters, the first of which has the given position; or the first character that
is no letter. -/
def encodeFrom (a : Alphabet) (position : Nat) : List Char → Except ForeignCharacter (List Nat)
  | [] => .ok []
  | c :: cs =>
    match a.code? c with
    | none => .error ⟨c, position⟩
    | some code => (a.encodeFrom (position + 1) cs).map (code :: ·)

/-- The codes of a word, or the first character that is no letter. -/
def encode (a : Alphabet) (word : String) : Except ForeignCharacter (List Nat) :=
  a.encodeFrom 0 word.toList

/-- The characters with the given codes, or why there is none with the first code that will not do. -/
def lettersAt (a : Alphabet) : List Int → Except CodeFault (List Char)
  | [] => .ok []
  | code :: codes =>
    match a.letterAt code with
    | .error fault => .error fault
    | .ok c => (a.lettersAt codes).map (c :: ·)

/-- The word with the given codes, where codes below zero count from the end. -/
def decodeCodes (a : Alphabet) (codes : List Int) : Except CodeFault String :=
  (a.lettersAt codes).map String.ofList

/-- The word with the given codes, which ought to be in range. -/
def decode (a : Alphabet) (codes : List Nat) : String :=
  String.ofList (codes.filterMap (a.letters[·]?))

end Alphabet
end Pseudoword
