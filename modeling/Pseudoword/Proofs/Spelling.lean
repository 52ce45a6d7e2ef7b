import Mathlib.Data.List.Basic
import Mathlib.Data.List.Nodup
import Pseudoword.Alphabet

/-! # Spelling words

A word and the list of its codes determine each other, as long as all characters of the word are
letters and all codes are those of letters. This file says so once, for the functions that encode and
decode with a check as well as for plain look-ups.

* **`Alphabet.Spells a word`** — the word is not empty and has only letters of the alphabet.
* **`Alphabet.codesOf a word`** — the codes of its characters, one by one.
* **`Alphabet.encode_eq_ok_iff`** — encoding succeeds exactly on words of letters, with these codes.
* **`Alphabet.encode_of_first_not_mem`** — on other words it fails at the first other character.
* **`Alphabet.codesOf_decode`**, **`Alphabet.decode_codesOf`** — the round trips. -/

namespace Pseudoword

/-- Among members of which one has a property, one is the first that has it. -/
theorem exists_first {α : Type} (p : α → Prop) {members : List α} (h : ∃ a ∈ members, p a) :
    ∃ earlier a later, members = earlier ++ a :: later ∧ (∀ b ∈ earlier, ¬ p b) ∧ p a := by
  classical
  obtain ⟨a, ha, hp⟩ := h
  have hsome : (members.find? fun b => decide (p b)).isSome :=
    List.find?_isSome.mpr ⟨a, ha, decide_eq_true hp⟩
  obtain ⟨b, hb⟩ := Option.isSome_iff_exists.mp hsome
  obtain ⟨hpb, earlier, later, hsplit, hearlier⟩ := List.find?_eq_some_iff_append.mp hb
  exact ⟨earlier, b, later, hsplit, fun c hc => by simpa using hearlier c hc, of_decide_eq_true hpb⟩

/-- **Either all members have a property, or one is the first without it.** -/
theorem forall_or_exists_first {α : Type} (p : α → Prop) (members : List α) :
    (∀ a ∈ members, p a)
      ∨ ∃ earlier a later, members = earlier ++ a :: later ∧ (∀ b ∈ earlier, p b) ∧ ¬ p a := by
  by_cases h : ∃ a ∈ members, ¬ p a
  · obtain ⟨earlier, a, later, hsplit, hearlier, ha⟩ := exists_first (¬ p ·) h
    exact .inr ⟨earlier, a, later, hsplit, fun b hb => not_not.mp (hearlier b hb), ha⟩
  · exact .inl fun a ha => by_contra fun hnot => h ⟨a, ha, hnot⟩

/-- **A split before a member**, told by the place of this member and by what is taken before it. -/
theorem exists_split_iff {α : Type} {p : α → Prop} {members : List α} {a : α} {place : Nat} :
    (∃ earlier later, members = earlier ++ a :: later ∧ earlier.length = place ∧ ∀ b ∈ earlier, p b) ↔
      members[place]? = some a ∧ ∀ b ∈ members.take place, p b := by
  constructor
  · rintro ⟨earlier, later, rfl, rfl, hearlier⟩
    rw [List.getElem?_append_right (Nat.le_refl _), Nat.sub_self, List.take_left]
    exact ⟨rfl, hearlier⟩
  · rintro ⟨hget, hearlier⟩
    obtain ⟨hlt, rfl⟩ := List.getElem?_eq_some_iff.mp hget
    refine ⟨members.take place, members.drop (place + 1), ?_, List.length_take_of_le (Nat.le_of_lt hlt),
      hearlier⟩
    rw [← List.drop_eq_getElem_cons hlt, List.take_append_drop]

namespace Alphabet

variable (a : Alphabet)

/-- **A word that can be spelled**: there is a character in it, and all of them are letters. -/
def Spells (word : String) : Prop :=
  word ≠ "" ∧ ∀ c ∈ word.toList, c ∈ a.letters

instance (word : String) : Decidable (a.Spells word) :=
  decidable_of_iff (word ≠ "" ∧ word.toList.all (· ∈ a.letters)) (by simp [Spells])

/-- The codes of the characters of a word: the place of each one among the letters. -/
def codesOf (word : String) : List Nat :=
  word.toList.map a.letters.idxOf

@[simp] theorem length_codesOf (word : String) : (a.codesOf word).length = word.length := by
  rw [codesOf, List.length_map, String.length_toList]

/-- A letter has its place among the letters as its code. -/
theorem code?_of_mem {c : Char} (h : c ∈ a.letters) : a.code? c = some (a.letters.idxOf c) := by
  have hlt : a.letters.idxOf c < a.letters.length := List.idxOf_lt_length_of_mem h
  refine List.idxOf?_eq_some_iff.mpr ⟨hlt, List.getElem_idxOf hlt, fun j hj heq => ?_⟩
  exact absurd heq (by simpa using List.not_of_lt_findIdx hj)

/-- Any other character has none. -/
theorem code?_of_not_mem {c : Char} (h : c ∉ a.letters) : a.code? c = none :=
  List.idxOf?_eq_none_iff.mpr h

/-- **The codes of letters are in range.** -/
theorem codesOf_lt {word : String} (h : ∀ c ∈ word.toList, c ∈ a.letters) :
    ∀ code ∈ a.codesOf word, code < a.size := by
  intro code hcode
  obtain ⟨c, hc, rfl⟩ := List.mem_map.mp hcode
  exact List.idxOf_lt_length_of_mem (h c hc)

theorem codesOf_ne_nil {word : String} (h : a.Spells word) : a.codesOf word ≠ [] := by
  intro hnil
  have : word.toList = [] := List.map_eq_nil_iff.mp hnil
  exact h.1 (String.toList_eq_nil_iff.mp this)

/-! ## Encoding -/

/-- Encoding characters succeeds if all of them are letters. -/
theorem encodeFrom_of_mem {cs : List Char} (position : Nat) (h : ∀ c ∈ cs, c ∈ a.letters) :
    a.encodeFrom position cs = .ok (cs.map a.letters.idxOf) := by
  induction cs generalizing position with
  | nil => rfl
  | cons c cs ih =>
      have hc : a.code? c = some (a.letters.idxOf c) := a.code?_of_mem (h c (by simp))
      have hcs := ih (position + 1) fun d hd => h d (List.mem_cons_of_mem _ hd)
      simp [encodeFrom, hc, hcs, Except.map]

/-- **Encoding characters fails at the first one that is no letter.** -/
theorem encodeFrom_of_first_not_mem {earlier later : List Char} {c : Char} (position : Nat)
    (hearlier : ∀ d ∈ earlier, d ∈ a.letters) (hc : c ∉ a.letters) :
    a.encodeFrom position (earlier ++ c :: later) = .error ⟨c, position + earlier.length⟩ := by
  induction earlier generalizing position with
  | nil => simp [encodeFrom, a.code?_of_not_mem hc]
  | cons d earlier ih =>
      have hd : a.code? d = some (a.letters.idxOf d) := a.code?_of_mem (hearlier d (by simp))
      have hrest := ih (position + 1) fun d hd => hearlier d (List.mem_cons_of_mem _ hd)
      rw [List.cons_append, encodeFrom, hd]
      simp only [hrest, Except.map, List.length_cons]
      congr 2
      omega

/-- **Encoding a word fails at its first character that is no letter.** -/
theorem encode_of_first_not_mem {word : String} {earlier later : List Char} {c : Char}
    (hword : word.toList = earlier ++ c :: later) (hearlier : ∀ d ∈ earlier, d ∈ a.letters)
    (hc : c ∉ a.letters) : a.encode word = .error ⟨c, earlier.length⟩ := by
  rw [encode, hword, a.encodeFrom_of_first_not_mem 0 hearlier hc, Nat.zero_add]

/-- **Encoding a word of letters** gives the codes of its characters. -/
theorem encode_of_mem {word : String} (h : ∀ c ∈ word.toList, c ∈ a.letters) :
    a.encode word = .ok (a.codesOf word) :=
  a.encodeFrom_of_mem 0 h

/-- **When encoding succeeds**: exactly on words of letters, with the codes of the characters. -/
theorem encode_eq_ok_iff {word : String} {codes : List Nat} :
    a.encode word = .ok codes ↔
      (∀ c ∈ word.toList, c ∈ a.letters) ∧ codes = a.codesOf word := by
  constructor
  · intro h
    rcases forall_or_exists_first (· ∈ a.letters) word.toList with
      hmem | ⟨earlier, foreign, later, hword, hearlier, hforeign⟩
    · rw [a.encode_of_mem hmem] at h
      exact ⟨hmem, (Except.ok.inj h).symm⟩
    · rw [a.encode_of_first_not_mem hword hearlier hforeign] at h
      cases h
  · rintro ⟨hmem, rfl⟩
    exact a.encode_of_mem hmem

/-! ## Decoding -/

/-- The characters of a decoded word are the letters with the given codes. -/
theorem toList_decode (codes : List Nat) :
    (a.decode codes).toList = codes.filterMap (a.letters[·]?) := by
  simp [decode]

/-- Every character of a decoded word is a letter. -/
theorem mem_letters_of_mem_decode {codes : List Nat} {c : Char}
    (h : c ∈ (a.decode codes).toList) : c ∈ a.letters := by
  rw [toList_decode] at h
  obtain ⟨code, -, hcode⟩ := List.mem_filterMap.mp h
  exact List.mem_of_getElem? hcode

/-- **Codes are found again** in the word that they spell, because no letter occurs twice. -/
theorem codesOf_decode {codes : List Nat} (h : ∀ code ∈ codes, code < a.size) :
    a.codesOf (a.decode codes) = codes := by
  rw [codesOf, toList_decode]
  induction codes with
  | nil => rfl
  | cons code codes ih =>
      have hcode : code < a.letters.length := h code (by simp)
      have hcodes := ih fun d hd => h d (List.mem_cons_of_mem _ hd)
      rw [List.filterMap_cons_some (List.getElem?_eq_getElem hcode), List.map_cons, hcodes,
        a.letters_nodup.idxOf_getElem code hcode]

/-- **A word is found again** from its codes. -/
theorem decode_codesOf {word : String} (h : ∀ c ∈ word.toList, c ∈ a.letters) :
    a.decode (a.codesOf word) = word := by
  have key : (word.toList.map a.letters.idxOf).filterMap (a.letters[·]?) = word.toList := by
    rw [List.filterMap_map]
    conv_rhs => rw [← List.filterMap_some (l := word.toList)]
    apply List.filterMap_congr
    intro c hc
    simp [List.getElem?_eq_getElem (List.idxOf_lt_length_of_mem (h c hc))]
  rw [decode, codesOf, key, String.ofList_toList]

/-- Looking up a code in range never fails. -/
theorem letterAt_of_lt {code : Nat} (h : code < a.size) :
    a.letterAt (Int.ofNat code) = .ok (a.letters.get ⟨code, h⟩) := by
  have hget : a.letters[code]? = some (a.letters.get ⟨code, h⟩) := List.getElem?_eq_getElem h
  simp [letterAt, letterAt?, hget]

/-- **Decoding with a check** agrees with decoding without one, if all codes are in range. -/
theorem decodeCodes_of_lt {codes : List Nat} (h : ∀ code ∈ codes, code < a.size) :
    a.decodeCodes (codes.map Int.ofNat) = .ok (a.decode codes) := by
  have key : a.lettersAt (codes.map Int.ofNat) = .ok (codes.filterMap (a.letters[·]?)) := by
    induction codes with
    | nil => rfl
    | cons code codes ih =>
        have hcode : code < a.size := h code (by simp)
        have hcodes := ih fun d hd => h d (List.mem_cons_of_mem _ hd)
        rw [List.map_cons, lettersAt, a.letterAt_of_lt hcode, hcodes,
          List.filterMap_cons_some (List.getElem?_eq_getElem hcode)]
        rfl
  rw [decodeCodes, key]
  rfl

/-! ## A small alphabet -/

/-- The alphabet of the letters `A` and `B`, on which statements are tried out. -/
def ofAB : Alphabet where
  letters := ['A', 'B']
  letters_ne_nil := by decide
  letters_nodup := by decide
  letters_unreserved := by
    intro c hc
    rcases List.mem_pair.mp hc with rfl | rfl <;> decide

end Alphabet
end Pseudoword
