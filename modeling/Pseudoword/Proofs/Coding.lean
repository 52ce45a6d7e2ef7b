import Mathlib
import Pseudoword.Proofs.Spelling

/-! # Alphabets from members, and their codes

An alphabet is made from a sequence of values, which are looked at one by one. The first one that will not do
decides what is wrong with the sequence, and if none is found the alphabet has their characters for letters,
in order. Codes are the places of letters, so that words and codes translate into each other; a code below
zero counts from the end, and is therefore found again as its remainder.

* **`Alphabet.AreLetters symbols`** — values that are letters, and none of them twice.
* **`Alphabet.Offends earlier symbol e`** — what is wrong with a value that comes after others.
* **`Alphabet.areLetters_or_exists_offends`** — either all values are letters, or one is the first that offends.
* **`Alphabet.ofSymbols_eq_ok_iff`**, **`Alphabet.ofSymbols_eq_error_iff`** — the alphabet, or the error.
* **`Alphabet.decodeCodes_of_inRange`** — decoding codes, some of which count from the end.
* **`Alphabet.codes_ofSymbols`** — alphabets from every sequence of values, and their codes. -/

namespace Pseudoword

namespace Alphabet

/-! ## (1) Values that are letters -/

/-- **The value that stands for a letter**: the text of this single character. -/
def symbolOf (c : Char) : Setting := .string (String.singleton c)

/-- **Values that are letters**: texts of a single character that is not reserved, none of them twice. -/
structure AreLetters (symbols : List Setting) : Prop where
  /-- Each is a single character, and not one that is reserved. -/
  exists_letter : ∀ symbol ∈ symbols, ∃ c, symbol = symbolOf c ∧ c ≠ startMark ∧ c ≠ endMark
  /-- None occurs twice. -/
  nodup : symbols.Nodup

/-- **What is wrong with a value that comes after others.** Whether it is a single character comes before
whether that is reserved, and this before whether it is among the others. -/
inductive Offends (earlier : List Setting) : Setting → ConfigurationError → Prop where
  /-- It is not a single character. -/
  | notOneCharacter {symbol : Setting} (h : ∀ c, symbol ≠ symbolOf c) :
    Offends earlier symbol (.notOneCharacter symbol)
  /-- It is a reserved one. -/
  | reservedSymbol {c : Char} (h : c = startMark ∨ c = endMark) :
    Offends earlier (symbolOf c) (.reservedSymbol c)
  /-- It is one of the others. -/
  | duplicateSymbol {c : Char} (hstart : c ≠ startMark) (hend : c ≠ endMark)
    (h : symbolOf c ∈ earlier) : Offends earlier (symbolOf c) (.duplicateSymbol c)

theorem isReserved_eq_true_iff {c : Char} : isReserved c = true ↔ c = startMark ∨ c = endMark := by
  simp [isReserved]

theorem isReserved_eq_false_iff {c : Char} :
    isReserved c = false ↔ c ≠ startMark ∧ c ≠ endMark := by
  simp [isReserved]

theorem symbolOf_injective : Function.Injective symbolOf := by
  intro c d h
  have htext : String.singleton c = String.singleton d := Setting.string.inj h
  simpa using congrArg String.toList htext

@[simp] theorem symbolOf_mem_map_iff {c : Char} {cs : List Char} :
    symbolOf c ∈ cs.map symbolOf ↔ c ∈ cs :=
  List.mem_map_of_injective symbolOf_injective

/-- **A value is a single character** exactly if it is the one that stands for it. -/
theorem letter?_eq_some_iff {symbol : Setting} {c : Char} :
    letter? symbol = some c ↔ symbol = symbolOf c := by
  constructor
  · intro h
    cases symbol with
    | string text =>
        rw [letter?] at h
        split at h
        · next d htext =>
          cases h
          rw [symbolOf, Setting.string.injEq, ← String.toList_inj, htext, String.toList_singleton]
        · cases h
    | _ => cases h
  · rintro rfl
    simp [letter?, symbolOf]

theorem letter?_eq_none_iff {symbol : Setting} :
    letter? symbol = none ↔ ∀ c, symbol ≠ symbolOf c := by
  rw [Option.eq_none_iff_forall_ne_some]
  exact forall_congr' fun c => letter?_eq_some_iff.not

/-- Values that are letters stand for distinct characters, none of which is reserved. -/
theorem AreLetters.exists_eq_map {symbols : List Setting} (h : AreLetters symbols) :
    ∃ cs : List Char, symbols = cs.map symbolOf ∧ cs.Nodup ∧ ∀ c ∈ cs, isReserved c = false := by
  have hrange : symbols ∈ {symbols | ∀ symbol ∈ symbols, symbol ∈ Set.range symbolOf} :=
    fun symbol hsymbol => by
      obtain ⟨c, hc, -⟩ := h.exists_letter symbol hsymbol
      exact ⟨c, hc.symm⟩
  rw [← Set.range_list_map] at hrange
  obtain ⟨cs, rfl⟩ := hrange
  refine ⟨cs, rfl, h.nodup.of_map _, fun c hc => ?_⟩
  obtain ⟨d, hd, hfree⟩ := h.exists_letter _ (List.mem_map_of_mem hc)
  rw [symbolOf_injective hd]
  exact isReserved_eq_false_iff.mpr hfree

/-- Distinct characters, none of which is reserved, make up values that are letters. -/
theorem areLetters_map {cs : List Char} (hnodup : cs.Nodup) (hfree : ∀ c ∈ cs, isReserved c = false) :
    AreLetters (cs.map symbolOf) where
  exists_letter := fun symbol hsymbol => by
    obtain ⟨c, hc, rfl⟩ := List.mem_map.mp hsymbol
    exact ⟨c, rfl, isReserved_eq_false_iff.mp (hfree c hc)⟩
  nodup := hnodup.map symbolOf_injective

/-! ## (2) The first value that offends -/

/-- **A value either offends or is one more letter.** -/
theorem AreLetters.concat_or_offends {symbols : List Setting} (h : AreLetters symbols)
    (symbol : Setting) : AreLetters (symbols ++ [symbol]) ∨ ∃ e, Offends symbols symbol e := by
  by_cases hsingle : ∃ c, symbol = symbolOf c
  · obtain ⟨c, rfl⟩ := hsingle
    by_cases hreserved : c = startMark ∨ c = endMark
    · exact .inr ⟨_, .reservedSymbol hreserved⟩
    · rw [not_or] at hreserved
      by_cases hmem : symbolOf c ∈ symbols
      · exact .inr ⟨_, .duplicateSymbol hreserved.1 hreserved.2 hmem⟩
      · refine .inl ⟨fun other hother => ?_, ?_⟩
        · rcases List.mem_append.mp hother with hother | hother
          · exact h.exists_letter other hother
          · exact ⟨c, List.mem_singleton.mp hother, hreserved⟩
        · rw [← List.concat_eq_append]
          exact h.nodup.concat hmem
  · exact .inr ⟨_, .notOneCharacter (not_exists.mp hsingle)⟩

/-- **Either all values are letters, or one is the first that offends**: those before it are letters. -/
theorem areLetters_or_exists_offends (symbols : List Setting) :
    AreLetters symbols
      ∨ ∃ earlier symbol later e, symbols = earlier ++ symbol :: later ∧ AreLetters earlier
        ∧ Offends earlier symbol e := by
  induction symbols using List.reverseRecOn with
  | nil => exact .inl ⟨nofun, List.nodup_nil⟩
  | append_singleton symbols symbol ih =>
      rcases ih with hletters | ⟨earlier, first, later, e, rfl, hearlier, hoffends⟩
      · rcases hletters.concat_or_offends symbol with hall | ⟨e, hoffends⟩
        · exact .inl hall
        · exact .inr ⟨symbols, symbol, [], e, rfl, hletters, hoffends⟩
      · refine .inr ⟨earlier, first, later ++ [symbol], e, ?_, hearlier, hoffends⟩
        rw [List.append_assoc, List.cons_append]

/-- A letter that is not reserved and not among the earlier ones passes the check. -/
theorem checkLetter_symbolOf {earlier : List Char} {c : Char} (hfree : isReserved c = false)
    (hnew : c ∉ earlier) : checkLetter earlier (symbolOf c) = .ok c := by
  have hletter : letter? (symbolOf c) = some c := letter?_eq_some_iff.mpr rfl
  simp [checkLetter, hletter, hfree, hnew]

/-- **A value that offends is refused**, whatever the order is in which the earlier letters are kept. -/
theorem Offends.checkLetter_eq {cs earlier : List Char} {symbol : Setting} {e : ConfigurationError}
    (h : Offends (cs.map symbolOf) symbol e) (hearlier : ∀ c ∈ cs, c ∈ earlier) :
    checkLetter earlier symbol = .error e := by
  cases h with
  | notOneCharacter h => simp [checkLetter, letter?_eq_none_iff.mpr h]
  | @reservedSymbol c h =>
      have hletter : letter? (symbolOf c) = some c := letter?_eq_some_iff.mpr rfl
      simp [checkLetter, hletter, isReserved_eq_true_iff.mpr h]
  | @duplicateSymbol c hstart hend h =>
      have hletter : letter? (symbolOf c) = some c := letter?_eq_some_iff.mpr rfl
      have hmem : c ∈ earlier := hearlier c (symbolOf_mem_map_iff.mp h)
      simp [checkLetter, hletter, isReserved_eq_false_iff.mpr ⟨hstart, hend⟩, hmem]

/-- **Letters are passed over**, and are among the earlier ones for what comes after them. -/
theorem checkLetters_map_append {cs earlier : List Char} (hnodup : cs.Nodup)
    (hfree : ∀ c ∈ cs, isReserved c = false) (hnew : ∀ c ∈ cs, c ∉ earlier) (rest : List Setting) :
    checkLetters earlier (cs.map symbolOf ++ rest)
      = (checkLetters (cs.reverse ++ earlier) rest).map (cs ++ ·) := by
  induction cs generalizing earlier with
  | nil =>
      rw [List.map_nil, List.nil_append, List.reverse_nil, List.nil_append]
      cases checkLetters earlier rest <;> rfl
  | cons c cs ih =>
      obtain ⟨hfirst, hothers⟩ := List.nodup_cons.mp hnodup
      have hcheck := checkLetter_symbolOf (hfree c (by simp)) (hnew c (by simp))
      have hrest := @ih (c :: earlier) hothers (fun d hd => hfree d (List.mem_cons_of_mem _ hd))
        (fun d hd => by
          rw [List.mem_cons, not_or]
          exact ⟨fun heq => hfirst (heq ▸ hd), hnew d (List.mem_cons_of_mem _ hd)⟩)
      rw [List.map_cons, List.cons_append, checkLetters, hcheck]
      simp only [hrest, List.reverse_cons, List.append_assoc, List.singleton_append]
      cases checkLetters (cs.reverse ++ c :: earlier) rest <;> rfl

/-! ## (3) The alphabet of a sequence of values -/

/-- What the check of its members comes to decides the alphabet. -/
theorem ofSymbols_of_checkLetters_error {symbols : List Setting} {e : ConfigurationError}
    (h : checkLetters [] symbols = .error e) : ofSymbols symbols = .error e := by
  unfold ofSymbols
  split
  · next e' h' => exact congrArg Except.error (Except.error.inj (h'.symm.trans h))
  · next cs h' => cases h'.symm.trans h

/-- **Without members there is no alphabet.** -/
theorem ofSymbols_nil : ofSymbols [] = .error .noSymbols := rfl

/-- **An alphabet from its own letters** is that alphabet. -/
theorem ofSymbols_map_letters (a : Alphabet) : ofSymbols (a.letters.map symbolOf) = .ok a := by
  have hcheck : checkLetters [] (a.letters.map symbolOf) = .ok a.letters := by
    have hpassed := checkLetters_map_append a.letters_nodup a.letters_unreserved
      (fun _ _ => List.not_mem_nil) []
    rw [List.append_nil] at hpassed
    rw [hpassed, checkLetters, Except.map, List.append_nil]
  unfold ofSymbols
  split
  · next e h => cases h.symm.trans hcheck
  · next cs h =>
    obtain rfl := Except.ok.inj (h.symm.trans hcheck)
    rw [dif_neg a.letters_ne_nil]

/-- **Which sequences make an alphabet**: those of values that are letters, at least one. -/
theorem exists_letters_eq {symbols : List Setting} (hne : symbols ≠ []) (h : AreLetters symbols) :
    ∃ a : Alphabet, symbols = a.letters.map symbolOf := by
  obtain ⟨cs, rfl, hnodup, hfree⟩ := h.exists_eq_map
  exact ⟨⟨cs, fun hnil => hne (congrArg (List.map symbolOf) hnil), hnodup, hfree⟩, rfl⟩

/-- **A sequence fails for the first value that offends.** -/
theorem ofSymbols_of_offends {earlier later : List Setting} {symbol : Setting} {e : ConfigurationError}
    (hearlier : AreLetters earlier) (h : Offends earlier symbol e) :
    ofSymbols (earlier ++ symbol :: later) = .error e := by
  obtain ⟨cs, rfl, hnodup, hfree⟩ := hearlier.exists_eq_map
  apply ofSymbols_of_checkLetters_error
  have hsymbol : checkLetter (cs.reverse ++ []) symbol = .error e :=
    h.checkLetter_eq fun c hc => List.mem_append_left _ (List.mem_reverse.mpr hc)
  rw [checkLetters_map_append hnodup hfree fun _ _ => List.not_mem_nil, checkLetters, hsymbol]
  rfl

/-- **What a sequence makes**: its values are the letters of the alphabet, in order. -/
theorem ofSymbols_eq_ok_iff {symbols : List Setting} {a : Alphabet} :
    ofSymbols symbols = .ok a ↔ symbols = a.letters.map symbolOf := by
  constructor
  · intro h
    rcases areLetters_or_exists_offends symbols with
      hletters | ⟨earlier, symbol, later, e, rfl, hearlier, hoffends⟩
    · have hne : symbols ≠ [] := by
        rintro rfl
        cases h.symm.trans ofSymbols_nil
      obtain ⟨b, rfl⟩ := exists_letters_eq hne hletters
      rw [Except.ok.inj (h.symm.trans (ofSymbols_map_letters b))]
    · cases h.symm.trans (ofSymbols_of_offends hearlier hoffends)
  · rintro rfl
    exact ofSymbols_map_letters a

/-- **When a sequence makes an alphabet.** -/
theorem exists_ofSymbols_eq_ok_iff {symbols : List Setting} :
    (∃ a, ofSymbols symbols = .ok a) ↔ symbols ≠ [] ∧ AreLetters symbols := by
  constructor
  · rintro ⟨a, h⟩
    obtain rfl := ofSymbols_eq_ok_iff.mp h
    exact ⟨fun hnil => a.letters_ne_nil (List.map_eq_nil_iff.mp hnil),
      areLetters_map a.letters_nodup a.letters_unreserved⟩
  · rintro ⟨hne, hletters⟩
    obtain ⟨a, rfl⟩ := exists_letters_eq hne hletters
    exact ⟨a, ofSymbols_map_letters a⟩

/-- **What is wrong with a sequence**: there are no values, or one is the first that offends. -/
theorem ofSymbols_eq_error_iff {symbols : List Setting} {e : ConfigurationError} :
    ofSymbols symbols = .error e ↔ (symbols = [] ∧ e = .noSymbols)
      ∨ ∃ earlier symbol later, symbols = earlier ++ symbol :: later ∧ AreLetters earlier
        ∧ Offends earlier symbol e := by
  constructor
  · intro h
    rcases areLetters_or_exists_offends symbols with
      hletters | ⟨earlier, symbol, later, e', rfl, hearlier, hoffends⟩
    · by_cases hne : symbols = []
      · subst hne
        exact .inl ⟨rfl, (Except.error.inj (ofSymbols_nil.symm.trans h)).symm⟩
      · obtain ⟨a, ha⟩ := exists_ofSymbols_eq_ok_iff.mpr ⟨hne, hletters⟩
        cases ha.symm.trans h
    · obtain rfl := Except.error.inj ((ofSymbols_of_offends hearlier hoffends).symm.trans h)
      exact .inr ⟨earlier, symbol, later, rfl, hearlier, hoffends⟩
  · rintro (⟨rfl, rfl⟩ | ⟨earlier, symbol, later, rfl, hearlier, hoffends⟩)
    · rfl
    · exact ofSymbols_of_offends hearlier hoffends

/-! ## (4) Words and codes -/

variable (a : Alphabet)

/-- **When encoding fails**: at the first character that is no letter. -/
theorem encode_eq_error_iff {word : String} {foreign : ForeignCharacter} :
    a.encode word = .error foreign ↔ word.toList[foreign.position]? = some foreign.character
      ∧ foreign.character ∉ a.letters ∧ ∀ c ∈ word.toList.take foreign.position, c ∈ a.letters := by
  constructor
  · intro h
    rcases forall_or_exists_first (· ∈ a.letters) word.toList with
      hletters | ⟨earlier, c, later, hsplit, hearlier, hc⟩
    · cases h.symm.trans (a.encode_of_mem hletters)
    · obtain rfl := Except.error.inj (h.symm.trans (a.encode_of_first_not_mem hsplit hearlier hc))
      obtain ⟨hget, htake⟩ := exists_split_iff.mp ⟨earlier, later, hsplit, rfl, hearlier⟩
      exact ⟨hget, hc, htake⟩
  · rintro ⟨hget, hc, htake⟩
    obtain ⟨earlier, later, hsplit, hplace, hearlier⟩ := exists_split_iff.mpr ⟨hget, htake⟩
    rw [a.encode_of_first_not_mem hsplit hearlier hc, hplace]

/-- **Encoding fails** exactly on words with a character that is no letter. -/
theorem exists_encode_eq_error_iff {word : String} :
    (∃ foreign, a.encode word = .error foreign) ↔ ∃ c ∈ word.toList, c ∉ a.letters := by
  constructor
  · rintro ⟨foreign, h⟩
    obtain ⟨hget, hc, -⟩ := a.encode_eq_error_iff.mp h
    exact ⟨foreign.character, List.mem_of_getElem? hget, hc⟩
  · intro hsome
    obtain ⟨earlier, c, later, hsplit, hearlier, hc⟩ := exists_first (· ∉ a.letters) hsome
    exact ⟨_, a.encode_of_first_not_mem hsplit (fun d hd => not_not.mp (hearlier d hd)) hc⟩

/-- **Words are found again** from their codes. -/
theorem decodeCodes_codesOf {word : String} (h : ∀ c ∈ word.toList, c ∈ a.letters) :
    a.decodeCodes ((a.codesOf word).map Int.ofNat) = .ok word := by
  rw [a.decodeCodes_of_lt (a.codesOf_lt h), a.decode_codesOf h]

/-- **A code that is in range**: a letter has it, counted from the start or from the end. -/
def InRange (code : Int) : Prop := -a.size ≤ code ∧ code < a.size

instance (code : Int) : Decidable (a.InRange code) := instDecidableAnd

/-- The code from the start that stands for the same letter as a code in range. -/
def placeOf (code : Int) : Nat := (code % a.size).toNat

theorem placeOf_lt (code : Int) : a.placeOf code < a.size := by
  have hpos := a.size_pos
  have hlt : code % a.size < a.size := Int.emod_lt_of_pos code (by omega)
  have hle : 0 ≤ code % a.size := Int.emod_nonneg code (by omega)
  rw [placeOf]
  omega

/-- A code that counts from the start stands for itself. -/
theorem placeOf_of_nonneg {code : Int} (hle : 0 ≤ code) (hlt : code < a.size) :
    a.placeOf code = code.toNat := by
  rw [placeOf, Int.emod_eq_of_lt hle hlt]

/-- **A code below zero counts from the end**: its letter is that of its remainder. -/
theorem letterAt_of_inRange {code : Int} (h : a.InRange code) :
    a.letterAt code = a.letterAt (a.placeOf code) := by
  obtain ⟨hle, hlt⟩ := h
  by_cases hstart : 0 ≤ code
  · rw [a.placeOf_of_nonneg hstart hlt, Int.toNat_of_nonneg hstart]
  · have hplace : a.placeOf code = (a.size + code).toNat := by
      rw [placeOf, ← Int.add_emod_left, Int.emod_eq_of_lt (by omega) (by omega)]
    have hletter : a.letters[a.placeOf code]? = some (a.letters.get ⟨_, a.placeOf_lt code⟩) :=
      List.getElem?_eq_getElem (a.placeOf_lt code)
    have hcode : a.letterAt? code = some (a.letters.get ⟨_, a.placeOf_lt code⟩) := by
      rw [letterAt?, if_neg hstart, if_pos (by omega), ← hplace, hletter]
    rw [letterAt, hcode]
    exact (a.letterAt_of_lt (a.placeOf_lt code)).symm

/-- Outside the range, there is no letter with a code. -/
theorem exists_letterAt_eq_error {code : Int} (h : ¬ a.InRange code) :
    ∃ fault, a.letterAt code = .error fault := by
  have hnone : a.letterAt? code = none := by
    rw [letterAt?]
    split
    · next hle =>
      refine List.getElem?_eq_none_iff.mpr ?_
      have hge : (a.size : Int) ≤ code := by
        by_contra hlt
        exact h ⟨by omega, by omega⟩
      rw [size] at hge
      omega
    · next hlt =>
      refine if_neg fun hle => h ⟨by omega, by omega⟩
  rw [letterAt, hnone]
  exact ⟨_, rfl⟩

/-- **Decoding codes in range** gives the word of the codes from the start. -/
theorem decodeCodes_of_inRange {codes : List Int} (h : ∀ code ∈ codes, a.InRange code) :
    a.decodeCodes codes = .ok (a.decode (codes.map a.placeOf)) := by
  have hsame : a.lettersAt codes = a.lettersAt ((codes.map a.placeOf).map Int.ofNat) := by
    induction codes with
    | nil => rfl
    | cons code codes ih =>
        have hcodes := ih fun other hother => h other (List.mem_cons_of_mem _ hother)
        have hcode : a.letterAt code = a.letterAt (Int.ofNat (a.placeOf code)) :=
          a.letterAt_of_inRange (h code (by simp))
        rw [lettersAt, List.map_cons, List.map_cons, lettersAt, hcodes, hcode]
  have hplaces : ∀ place ∈ codes.map a.placeOf, place < a.size := by
    intro place hplace
    obtain ⟨code, -, rfl⟩ := List.mem_map.mp hplace
    exact a.placeOf_lt code
  rw [← a.decodeCodes_of_lt hplaces, decodeCodes, decodeCodes, hsame]

/-- **Decoding fails** exactly if some code is out of range. -/
theorem exists_decodeCodes_eq_error_iff {codes : List Int} :
    (∃ fault, a.decodeCodes codes = .error fault) ↔ ∃ code ∈ codes, ¬ a.InRange code := by
  constructor
  · rintro ⟨fault, h⟩
    by_contra hnone
    have hall : ∀ code ∈ codes, a.InRange code := fun code hcode =>
      by_contra fun hout => hnone ⟨code, hcode, hout⟩
    cases h.symm.trans (a.decodeCodes_of_inRange hall)
  · rintro ⟨code, hcode, hout⟩
    have hletters : ∃ fault, a.lettersAt codes = .error fault := by
      induction codes with
      | nil => cases hcode
      | cons first codes ih =>
          rw [lettersAt]
          cases hfirst : a.letterAt first with
          | error fault => exact ⟨fault, rfl⟩
          | ok c =>
              rcases List.mem_cons.mp hcode with rfl | hcode
              · obtain ⟨fault, hfault⟩ := a.exists_letterAt_eq_error hout
                cases hfirst.symm.trans hfault
              · obtain ⟨fault, hfault⟩ := ih hcode
                rw [hfault]
                exact ⟨fault, rfl⟩
    obtain ⟨fault, hfault⟩ := hletters
    rw [decodeCodes, hfault]
    exact ⟨fault, rfl⟩

/-- **Codes in range are found again** as their remainders. -/
theorem encode_decode_map_placeOf (codes : List Int) :
    a.encode (a.decode (codes.map a.placeOf)) = .ok (codes.map a.placeOf) := by
  have hplaces : ∀ place ∈ codes.map a.placeOf, place < a.size := by
    intro place hplace
    obtain ⟨code, -, rfl⟩ := List.mem_map.mp hplace
    exact a.placeOf_lt code
  rw [a.encode_of_mem fun c hc => a.mem_letters_of_mem_decode hc, a.codesOf_decode hplaces]

/-- As integers, they are the remainders. -/
theorem map_ofNat_map_placeOf (codes : List Int) :
    (codes.map a.placeOf).map Int.ofNat = codes.map fun code : Int => code % a.size := by
  have hpos := a.size_pos
  rw [List.map_map]
  exact List.map_congr_left fun code _ => Int.toNat_of_nonneg (Int.emod_nonneg code (by omega))

/-! ## (5) Every sequence of values -/

/-- The members of a value make the alphabet that the value describes, if it has members. -/
theorem ofSetting_of_members {value : Setting} {symbols : List Setting}
    (h : value.members? = some symbols) :
    ofSetting value = (ofSymbols symbols).mapError .refused := by
  rw [ofSetting, h]

/-- **Alphabets from every sequence of values, and their codes**, whatever value the sequence comes from as its
members. The sequence makes an alphabet exactly if it is not empty and its values are letters. Otherwise it
fails because it is empty, or for the first value that offends. If it makes one, its values are the letters of
the alphabet, as many as the alphabet has. Words of these letters are found again from their codes, and any
other word fails at its first character that is none. Decoding fails exactly if a code is out of range, and else
every code is found again as its remainder, which is the code itself if it counts from the start. -/
theorem codes_ofSymbols (symbols : List Setting) :
    (∀ value : Setting, value.members? = some symbols →
        ofSetting value = (ofSymbols symbols).mapError .refused)
      ∧ ((∃ a, ofSymbols symbols = .ok a) ↔ symbols ≠ [] ∧ AreLetters symbols)
      ∧ (∀ e, ofSymbols symbols = .error e ↔ (symbols = [] ∧ e = .noSymbols)
        ∨ ∃ earlier symbol later, symbols = earlier ++ symbol :: later ∧ AreLetters earlier
          ∧ Offends earlier symbol e)
      ∧ ∀ a, ofSymbols symbols = .ok a →
        symbols = a.letters.map symbolOf ∧ a.size = symbols.length
          ∧ (∀ word : String, (∀ c ∈ word.toList, symbolOf c ∈ symbols) →
            ∃ codes, a.encode word = .ok codes ∧ a.decodeCodes (codes.map Int.ofNat) = .ok word)
          ∧ (∀ word, (∃ foreign, a.encode word = .error foreign)
            ↔ ∃ c ∈ word.toList, symbolOf c ∉ symbols)
          ∧ (∀ word foreign, a.encode word = .error foreign
            ↔ word.toList[foreign.position]? = some foreign.character
              ∧ symbolOf foreign.character ∉ symbols
              ∧ ∀ c ∈ word.toList.take foreign.position, symbolOf c ∈ symbols)
          ∧ ∀ codes : List Int,
            ((∃ fault, a.decodeCodes codes = .error fault)
              ↔ ∃ code ∈ codes, ¬ (-a.size ≤ code ∧ code < a.size))
            ∧ (∀ word, a.decodeCodes codes = .ok word →
              ∃ found, a.encode word = .ok found
                ∧ found.map Int.ofNat = codes.map fun code : Int => code % a.size)
            ∧ ((∀ code ∈ codes, 0 ≤ code ∧ code < a.size) →
              ∃ word found, a.decodeCodes codes = .ok word ∧ a.encode word = .ok found
                ∧ found.map Int.ofNat = codes) := by
  refine ⟨fun value => ofSetting_of_members, exists_ofSymbols_eq_ok_iff,
    fun e => ofSymbols_eq_error_iff, fun a h => ?_⟩
  obtain rfl := ofSymbols_eq_ok_iff.mp h
  simp only [symbolOf_mem_map_iff, List.length_map]
  refine ⟨trivial, rfl, fun word hword => ⟨_, a.encode_of_mem hword, a.decodeCodes_codesOf hword⟩,
    fun word => a.exists_encode_eq_error_iff, fun word foreign => a.encode_eq_error_iff,
    fun codes => ⟨a.exists_decodeCodes_eq_error_iff, fun word hword => ?_, fun hcodes => ?_⟩⟩
  · have hall : ∀ code ∈ codes, a.InRange code := fun code hcode => by_contra fun hout => by
      obtain ⟨fault, hfault⟩ := a.exists_decodeCodes_eq_error_iff.mpr ⟨code, hcode, hout⟩
      cases hfault.symm.trans hword
    obtain rfl := Except.ok.inj ((a.decodeCodes_of_inRange hall).symm.trans hword)
    exact ⟨_, a.encode_decode_map_placeOf codes, a.map_ofNat_map_placeOf codes⟩
  · have hall : ∀ code ∈ codes, a.InRange code := fun code hcode => by
      have hrange := hcodes code hcode
      exact ⟨by omega, hrange.2⟩
    refine ⟨_, _, a.decodeCodes_of_inRange hall, a.encode_decode_map_placeOf codes, ?_⟩
    rw [a.map_ofNat_map_placeOf]
    conv_rhs => rw [← List.map_id codes]
    exact List.map_congr_left fun code hcode =>
      Int.emod_eq_of_lt (hcodes code hcode).1 (hcodes code hcode).2

/-- In the alphabet of `A` and `B`, the codes minus one, zero and minus two spell `BAA`, so that they are found
again as one, zero and zero; two is out of range. A number, a reserved mark behind a letter, and a letter given
twice are what is wrong with other sequences. -/
theorem codes_ofSymbols_ofAB :
    ofSetting (.string "AB") = .ok ofAB
      ∧ (∃ codes, ofAB.encode "BA" = .ok codes ∧ ofAB.decodeCodes (codes.map Int.ofNat) = .ok "BA")
      ∧ ofAB.encode "AxB" = .error ⟨'x', 1⟩
      ∧ (∃ found, ofAB.encode "BAA" = .ok found ∧ found.map Int.ofNat = [1, 0, 0])
      ∧ (∃ word found, ofAB.decodeCodes [1, 0] = .ok word ∧ ofAB.encode word = .ok found
        ∧ found.map Int.ofNat = [1, 0])
      ∧ (∃ fault, ofAB.decodeCodes [0, 2] = .error fault)
      ∧ ofSymbols [.integer 1, symbolOf '^'] = .error (.notOneCharacter (.integer 1))
      ∧ ofSymbols [symbolOf 'A', symbolOf '^'] = .error (.reservedSymbol '^')
      ∧ ofSymbols [symbolOf 'A', symbolOf 'B', symbolOf 'A', .null] = .error (.duplicateSymbol 'A') := by
  have hmade : ofSymbols [symbolOf 'A', symbolOf 'B'] = .ok ofAB := ofSymbols_map_letters ofAB
  have hfree : ∀ c ∈ ofAB.letters, c ≠ startMark ∧ c ≠ endMark := fun c hc =>
    isReserved_eq_false_iff.mp (ofAB.letters_unreserved c hc)
  have hAB : AreLetters [symbolOf 'A', symbolOf 'B'] :=
    areLetters_map ofAB.letters_nodup ofAB.letters_unreserved
  have hA : AreLetters [symbolOf 'A'] :=
    ⟨fun symbol hsymbol => hAB.exists_letter symbol (List.mem_singleton.mp hsymbol ▸ by simp),
      List.nodup_singleton _⟩
  -- what codes and words come to
  obtain ⟨hvalue, -, -, hcodes⟩ := codes_ofSymbols (ofAB.letters.map symbolOf)
  obtain ⟨-, -, hwords, -, hforeign, hdecode⟩ := hcodes ofAB hmade
  simp only [symbolOf_mem_map_iff] at hwords hforeign
  have hBA : ofAB.Spells "BA" := by decide
  obtain ⟨found, hfound, hback⟩ := (hdecode [-1, 0, -2]).2.1 "BAA" (by decide +kernel)
  refine ⟨(hvalue (.string "AB") rfl).trans (congrArg (Except.mapError _) hmade), hwords "BA" hBA.2,
    (hforeign "AxB" ⟨'x', 1⟩).mpr ⟨rfl, by decide, ?_⟩,
    ⟨found, hfound, hback.trans (by decide)⟩, (hdecode [1, 0]).2.2 (by decide),
    (hdecode [0, 2]).1.mpr ⟨2, by decide, by decide⟩, ?_, ?_, ?_⟩
  · exact List.forall_mem_singleton.mpr (by decide : 'A' ∈ ofAB.letters)
  · exact ((codes_ofSymbols _).2.2.1 _).mpr (.inr ⟨[], _, _, rfl, ⟨nofun, List.nodup_nil⟩,
      .notOneCharacter fun c h => by cases h⟩)
  · exact ((codes_ofSymbols _).2.2.1 _).mpr (.inr ⟨[symbolOf 'A'], _, [], rfl, hA,
      .reservedSymbol (.inl rfl)⟩)
  · obtain ⟨hstart, hend⟩ := hfree 'A' (by decide)
    exact ((codes_ofSymbols _).2.2.1 _).mpr (.inr ⟨[symbolOf 'A', symbolOf 'B'], _, [.null], rfl, hAB,
      .duplicateSymbol hstart hend (by simp)⟩)

end Alphabet
end Pseudoword
