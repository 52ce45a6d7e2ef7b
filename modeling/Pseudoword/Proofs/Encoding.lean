import Mathlib
import Pseudoword.Text.Utf8

/-! # Texts and their bytes

Reading bytes as text and spelling a text by bytes undo each other: bytes are read without a fault
exactly if they are the spelling of a text, which is then read. Both sides are compared with a table
of the byte sequences that spell a character, by lead and continuation bits.

* **`Text.Utf8.Sequence c bytes`** — the byte sequence of a character.
* **`Text.Utf8.readOne_eq_char_iff`** — exactly these sequences are read as characters.
* **`Text.Utf8.decode_eq_ok_iff`** — exactly the spellings of texts are read as texts.
* **`Text.Utf8.exists_decode_eq_error_iff`** — any other bytes are refused. -/

namespace Pseudoword.Text.Utf8

/-! ## (1) The sequences of characters -/

/-- **The byte sequence of a character**, told by the bits in each byte. They are the bits of a
character within range that is no surrogate and not spelled by a shorter sequence. -/
inductive Sequence : Char → List UInt8 → Prop where
  /-- Seven bits. -/
  | one {n : Nat} : n < 128 → Sequence (Char.ofNat n) [UInt8.ofNat n]
  /-- Five bits and six bits. -/
  | two {x y : Nat} : 2 ≤ x → x < 32 → y < 64 →
    Sequence (Char.ofNat (x * 64 + y)) [UInt8.ofNat (0xC0 + x), continuation y]
  /-- Four bits and twice six bits. -/
  | three {x y z : Nat} : x < 16 → y < 64 → z < 64 → (x = 0 → 32 ≤ y) → (x = 13 → y < 32) →
    Sequence (Char.ofNat ((x * 64 + y) * 64 + z))
      [UInt8.ofNat (0xE0 + x), continuation y, continuation z]
  /-- Three bits and three times six bits. -/
  | four {x y z v : Nat} : x < 5 → y < 64 → z < 64 → v < 64 → (x = 0 → 16 ≤ y) →
    (x = 4 → y < 16) → Sequence (Char.ofNat (((x * 64 + y) * 64 + z) * 64 + v))
      [UInt8.ofNat (0xF0 + x), continuation y, continuation z, continuation v]

theorem toNat_ofNat {n : Nat} (h : n.isValidChar) : (Char.ofNat n).toNat = n := by
  rw [Char.toNat_ofNat, if_pos h]

theorem continuation_mod (bits : Nat) : continuation (bits % 64) = continuation bits := by
  rw [continuation, Nat.mod_mod, continuation]

/-- **Each character is spelled by its sequence.** -/
theorem sequence_encodeChar (c : Char) : Sequence c (encodeChar c) := by
  obtain ⟨n, hn⟩ : ∃ n, c.toNat = n := ⟨_, rfl⟩
  have hvalid : n < 0xD800 ∨ 0xDFFF < n ∧ n < 0x110000 := hn ▸ c.valid
  obtain rfl : c = Char.ofNat n := by rw [← hn, Char.ofNat_toNat]
  simp only [encodeChar, hn]
  split
  · exact .one ‹_›
  · split
    · have h := Sequence.two (x := n / 64) (y := n % 64) (by omega) (by omega) (by omega)
      rwa [continuation_mod, Nat.div_add_mod'] at h
    · split
      · have h := Sequence.three (x := n / 4096) (y := n / 64 % 64) (z := n % 64) (by omega)
          (by omega) (by omega) (by omega) (by omega)
        have hsum : (n / 4096 * 64 + n / 64 % 64) * 64 + n % 64 = n := by omega
        rwa [continuation_mod, continuation_mod, hsum] at h
      · have h := Sequence.four (x := n / 262144) (y := n / 4096 % 64) (z := n / 64 % 64)
          (v := n % 64) (by omega) (by omega) (by omega) (by omega) (by omega) (by omega)
        have hsum : ((n / 262144 * 64 + n / 4096 % 64) * 64 + n / 64 % 64) * 64 + n % 64 = n := by
          omega
        rwa [continuation_mod, continuation_mod, continuation_mod, hsum] at h

/-- **A character has one sequence.** -/
theorem Sequence.encodeChar_eq {c : Char} {bytes : List UInt8} (h : Sequence c bytes) :
    encodeChar c = bytes := by
  cases h with
  | @one n hn =>
      have hc : (Char.ofNat n).toNat = n := toNat_ofNat (.inl (by omega))
      simp only [encodeChar, hc, if_pos hn]
  | @two x y hlow hx hy =>
      have hc : (Char.ofNat (x * 64 + y)).toNat = x * 64 + y := toNat_ofNat (.inl (by omega))
      have hx' : (x * 64 + y) / 64 = x := by omega
      have hy' : (x * 64 + y) % 64 = y := by omega
      simp only [encodeChar, hc]
      rw [if_neg (by omega), if_pos (by omega), hx', ← continuation_mod, hy']
  | @three x y z hx hy hz hlow hhigh =>
      have hvalid : ((x * 64 + y) * 64 + z).isValidChar := by
        unfold Nat.isValidChar
        omega
      have hx' : ((x * 64 + y) * 64 + z) / 4096 = x := by omega
      have hy' : ((x * 64 + y) * 64 + z) / 64 % 64 = y := by omega
      have hz' : ((x * 64 + y) * 64 + z) % 64 = z := by omega
      simp only [encodeChar, toNat_ofNat hvalid]
      rw [if_neg (by omega), if_neg (by omega), if_pos (by omega), hx', ← continuation_mod, hy',
        ← continuation_mod ((x * 64 + y) * 64 + z), hz']
  | @four x y z v hx hy hz hv hlow hhigh =>
      have hvalid : (((x * 64 + y) * 64 + z) * 64 + v).isValidChar := by
        unfold Nat.isValidChar
        omega
      have hx' : (((x * 64 + y) * 64 + z) * 64 + v) / 262144 = x := by omega
      have hy' : (((x * 64 + y) * 64 + z) * 64 + v) / 4096 % 64 = y := by omega
      have hz' : (((x * 64 + y) * 64 + z) * 64 + v) / 64 % 64 = z := by omega
      have hv' : (((x * 64 + y) * 64 + z) * 64 + v) % 64 = v := by omega
      simp only [encodeChar, toNat_ofNat hvalid]
      rw [if_neg (by omega), if_neg (by omega), if_neg (by omega), hx', ← continuation_mod, hy',
        ← continuation_mod (_ / 64), hz', ← continuation_mod (_ + v), hv']

/-! ## (2) Reading one character -/

theorem toNat_continuation (bits : Nat) : (continuation bits).toNat = 0x80 + bits % 64 := by
  rw [continuation, UInt8.toNat_ofNat']
  omega

/-- **A character is read further** if a continuation byte in range comes next, which adds bits. -/
theorem readTail_eq_char_iff {low high : UInt8} (hlow : 0x80 ≤ low.toNat) (hhigh : high.toNat ≤ 0xBF)
    {needed value : Nat} {bytes rest : List UInt8} {c : Char} :
    readTail (needed + 1) low high value bytes = (.char c, rest)
      ↔ ∃ bits tail, low.toNat ≤ 0x80 + bits ∧ 0x80 + bits ≤ high.toNat
        ∧ bytes = continuation bits :: tail
        ∧ readTail needed 0x80 0xBF (value * 64 + bits) tail = (.char c, rest) := by
  constructor
  · intro h
    cases bytes with
    | nil => cases h
    | cons b tail =>
        rw [readTail] at h
        split at h
        · next hb =>
          rw [UInt8.le_iff_toNat_le, UInt8.le_iff_toNat_le] at hb
          have hbits : b = continuation (b.toNat - 0x80) := by
            rw [← UInt8.toNat_inj, toNat_continuation]
            omega
          exact ⟨b.toNat - 0x80, tail, by omega, by omega, by rw [← hbits], h⟩
        · cases h
  · rintro ⟨bits, tail, hle, hge, rfl, h⟩
    have hbyte : (continuation bits).toNat = 0x80 + bits := by
      rw [toNat_continuation, Nat.mod_eq_of_lt (by omega)]
    have hcontinues : low ≤ continuation bits ∧ continuation bits ≤ high := by
      rw [UInt8.le_iff_toNat_le, UInt8.le_iff_toNat_le, hbyte]
      exact ⟨hle, hge⟩
    rw [readTail, if_pos hcontinues, hbyte, Nat.add_sub_cancel_left, h]

/-- After the first continuation byte, any other is in range. -/
theorem readTail_eq_char_iff_lt {needed value : Nat} {bytes rest : List UInt8} {c : Char} :
    readTail (needed + 1) 0x80 0xBF value bytes = (.char c, rest)
      ↔ ∃ bits < 64, ∃ tail, bytes = continuation bits :: tail
        ∧ readTail needed 0x80 0xBF (value * 64 + bits) tail = (.char c, rest) := by
  rw [readTail_eq_char_iff (show 0x80 ≤ (0x80 : UInt8).toNat by decide)
    (show (0xBF : UInt8).toNat ≤ 0xBF by decide)]
  constructor
  · rintro ⟨bits, tail, -, hbits, h⟩
    exact ⟨bits, Nat.lt_of_add_lt_add_left (n := 0x80) (Nat.lt_succ_of_le hbits), tail, h⟩
  · rintro ⟨bits, hbits, tail, h⟩
    exact ⟨bits, tail, Nat.le_add_right _ _, show 0x80 + bits ≤ 0xBF by omega, h⟩

/-- The last byte of a character completes it. -/
theorem readTail_zero_eq_char_iff {low high : UInt8} {value : Nat} {bytes rest : List UInt8}
    {c : Char} :
    readTail 0 low high value bytes = (.char c, rest) ↔ c = Char.ofNat value ∧ bytes = rest := by
  rw [readTail, Prod.mk.injEq, Piece.char.injEq, eq_comm]

/-- A lead byte of seven bits is read as it is. -/
theorem readOne_one_eq_char_iff {n : Nat} (hn : n < 128) {bytes rest : List UInt8} {c : Char} :
    readOne (UInt8.ofNat n) bytes = (.char c, rest) ↔ c = Char.ofNat n ∧ bytes = rest := by
  have hread : readOne (UInt8.ofNat n) bytes = (.char (Char.ofNat n), bytes) := by
    interval_cases n <;> rfl
  rw [hread, Prod.mk.injEq, Piece.char.injEq, eq_comm]

/-- **A lead byte of five bits** calls for one more byte. -/
theorem readOne_two_eq_char_iff {x : Nat} (hlow : 2 ≤ x) (hx : x < 32) {bytes rest : List UInt8}
    {c : Char} :
    readOne (UInt8.ofNat (0xC0 + x)) bytes = (.char c, rest)
      ↔ ∃ y < 64, c = Char.ofNat (x * 64 + y) ∧ bytes = continuation y :: rest := by
  have hread : readOne (UInt8.ofNat (0xC0 + x)) bytes = readTail 1 0x80 0xBF x bytes := by
    interval_cases x <;> rfl
  rw [hread, readTail_eq_char_iff_lt]
  simp only [readTail_zero_eq_char_iff]
  constructor
  · rintro ⟨y, hy, tail, rfl, rfl, rfl⟩
    exact ⟨y, hy, rfl, rfl⟩
  · rintro ⟨y, hy, rfl, rfl⟩
    exact ⟨y, hy, rest, rfl, rfl, rfl⟩

/-- **A lead byte of four bits** calls for two more bytes, the first of which has a narrower range
where the character would be spelled by fewer bytes, or be a surrogate. -/
theorem readOne_three_eq_char_iff {x : Nat} (hx : x < 16) {bytes rest : List UInt8} {c : Char} :
    readOne (UInt8.ofNat (0xE0 + x)) bytes = (.char c, rest)
      ↔ ∃ y < 64, ∃ z < 64, (x = 0 → 32 ≤ y) ∧ (x = 13 → y < 32)
        ∧ c = Char.ofNat ((x * 64 + y) * 64 + z)
        ∧ bytes = continuation y :: continuation z :: rest := by
  obtain ⟨low, high, hlow, hhigh, hread⟩ : ∃ low high : UInt8,
      low.toNat = (if x = 0 then 0xA0 else 0x80) ∧ high.toNat = (if x = 13 then 0x9F else 0xBF)
        ∧ readOne (UInt8.ofNat (0xE0 + x)) bytes = readTail 2 low high x bytes := by
    interval_cases x <;> exact ⟨_, _, rfl, rfl, rfl⟩
  have hrange : ∀ y, low.toNat ≤ 0x80 + y ∧ 0x80 + y ≤ high.toNat
      ↔ y < 64 ∧ (x = 0 → 32 ≤ y) ∧ (x = 13 → y < 32) := fun y => by
    rw [hlow, hhigh]
    split_ifs <;> omega
  rw [hread, readTail_eq_char_iff (by split_ifs at hlow <;> omega) (by split_ifs at hhigh <;> omega)]
  simp only [readTail_eq_char_iff_lt, readTail_zero_eq_char_iff]
  constructor
  · rintro ⟨y, _, hle, hge, rfl, z, hz, _, rfl, rfl, rfl⟩
    obtain ⟨hy, hshort, hsurrogate⟩ := (hrange y).mp ⟨hle, hge⟩
    exact ⟨y, hy, z, hz, hshort, hsurrogate, rfl, rfl⟩
  · rintro ⟨y, hy, z, hz, hshort, hsurrogate, rfl, rfl⟩
    obtain ⟨hle, hge⟩ := (hrange y).mpr ⟨hy, hshort, hsurrogate⟩
    exact ⟨y, _, hle, hge, rfl, z, hz, rest, rfl, rfl, rfl⟩

/-- **A lead byte of three bits** calls for three more bytes, the first of which has a narrower range
where the character would be spelled by fewer bytes, or be out of range. -/
theorem readOne_four_eq_char_iff {x : Nat} (hx : x < 5) {bytes rest : List UInt8} {c : Char} :
    readOne (UInt8.ofNat (0xF0 + x)) bytes = (.char c, rest)
      ↔ ∃ y < 64, ∃ z < 64, ∃ v < 64, (x = 0 → 16 ≤ y) ∧ (x = 4 → y < 16)
        ∧ c = Char.ofNat (((x * 64 + y) * 64 + z) * 64 + v)
        ∧ bytes = continuation y :: continuation z :: continuation v :: rest := by
  obtain ⟨low, high, hlow, hhigh, hread⟩ : ∃ low high : UInt8,
      low.toNat = (if x = 0 then 0x90 else 0x80) ∧ high.toNat = (if x = 4 then 0x8F else 0xBF)
        ∧ readOne (UInt8.ofNat (0xF0 + x)) bytes = readTail 3 low high x bytes := by
    interval_cases x <;> exact ⟨_, _, rfl, rfl, rfl⟩
  have hrange : ∀ y, low.toNat ≤ 0x80 + y ∧ 0x80 + y ≤ high.toNat
      ↔ y < 64 ∧ (x = 0 → 16 ≤ y) ∧ (x = 4 → y < 16) := fun y => by
    rw [hlow, hhigh]
    split_ifs <;> omega
  rw [hread, readTail_eq_char_iff (by split_ifs at hlow <;> omega) (by split_ifs at hhigh <;> omega)]
  simp only [readTail_eq_char_iff_lt, readTail_zero_eq_char_iff]
  constructor
  · rintro ⟨y, _, hle, hge, rfl, z, hz, _, rfl, v, hv, _, rfl, rfl, rfl⟩
    obtain ⟨hy, hshort, hbeyond⟩ := (hrange y).mp ⟨hle, hge⟩
    exact ⟨y, hy, z, hz, v, hv, hshort, hbeyond, rfl, rfl⟩
  · rintro ⟨y, hy, z, hz, v, hv, hshort, hbeyond, rfl, rfl⟩
    obtain ⟨hle, hge⟩ := (hrange y).mpr ⟨hy, hshort, hbeyond⟩
    exact ⟨y, _, hle, hge, rfl, z, hz, _, rfl, v, hv, rest, rfl, rfl, rfl⟩

/-- **What a lead byte can be**: one of seven, five, four or three bits, or none at all. -/
theorem lead_cases (b : UInt8) :
    (∃ n < 128, b = UInt8.ofNat n) ∨ (∃ x, 2 ≤ x ∧ x < 32 ∧ b = UInt8.ofNat (0xC0 + x))
      ∨ (∃ x < 16, b = UInt8.ofNat (0xE0 + x)) ∨ (∃ x < 5, b = UInt8.ofNat (0xF0 + x))
      ∨ ∀ bytes, readOne b bytes = (.fault .invalidStart, bytes) := by
  obtain ⟨n, hn, rfl⟩ : ∃ n < 256, b = UInt8.ofNat n := ⟨b.toNat, b.toNat_lt, by simp⟩
  have hnat : (UInt8.ofNat n).toNat = n := by
    rw [UInt8.toNat_ofNat', Nat.mod_eq_of_lt hn]
  rcases Nat.lt_or_ge n 0x80 with h | h
  · exact .inl ⟨n, h, rfl⟩
  rcases Nat.lt_or_ge n 0xC2 with h' | h'
  · -- a continuation byte, or the lead of five bits that seven would hold
    refine .inr (.inr (.inr (.inr fun bytes => ?_)))
    simp only [readOne, UInt8.lt_iff_toNat_lt, hnat, UInt8.reduceToNat]
    rw [if_neg (by omega), if_pos h']
  rcases Nat.lt_or_ge n 0xE0 with h' | h'
  · exact .inr (.inl ⟨n - 0xC0, by omega, by omega, congrArg UInt8.ofNat (by omega)⟩)
  rcases Nat.lt_or_ge n 0xF0 with h' | h'
  · exact .inr (.inr (.inl ⟨n - 0xE0, by omega, congrArg UInt8.ofNat (by omega)⟩))
  rcases Nat.lt_or_ge n 0xF5 with h' | h'
  · exact .inr (.inr (.inr (.inl ⟨n - 0xF0, by omega, congrArg UInt8.ofNat (by omega)⟩)))
  · -- the lead of a character out of range
    refine .inr (.inr (.inr (.inr fun bytes => ?_)))
    simp only [readOne, UInt8.lt_iff_toNat_lt, hnat, UInt8.reduceToNat]
    rw [if_neg (by omega), if_neg (by omega), if_neg (by omega), if_neg (by omega),
      if_neg (by omega)]

/-- **What is read as a character** is its sequence. -/
theorem readOne_eq_char_iff {c : Char} {b : UInt8} {bytes rest : List UInt8} :
    readOne b bytes = (.char c, rest) ↔ ∃ tail, bytes = tail ++ rest ∧ Sequence c (b :: tail) := by
  constructor
  · intro h
    rcases lead_cases b with ⟨n, hn, rfl⟩ | ⟨x, hlow, hx, rfl⟩ | ⟨x, hx, rfl⟩ | ⟨x, hx, rfl⟩ | hnone
    · obtain ⟨rfl, rfl⟩ := (readOne_one_eq_char_iff hn).mp h
      exact ⟨[], rfl, .one hn⟩
    · obtain ⟨y, hy, rfl, rfl⟩ := (readOne_two_eq_char_iff hlow hx).mp h
      exact ⟨[_], rfl, .two hlow hx hy⟩
    · obtain ⟨y, hy, z, hz, hshort, hsurrogate, rfl, rfl⟩ := (readOne_three_eq_char_iff hx).mp h
      exact ⟨[_, _], rfl, .three hx hy hz hshort hsurrogate⟩
    · obtain ⟨y, hy, z, hz, v, hv, hshort, hbeyond, rfl, rfl⟩ := (readOne_four_eq_char_iff hx).mp h
      exact ⟨[_, _, _], rfl, .four hx hy hz hv hshort hbeyond⟩
    · rw [hnone] at h
      cases h
  · rintro ⟨tail, rfl, h⟩
    cases h with
    | one hn => exact (readOne_one_eq_char_iff hn).mpr ⟨rfl, rfl⟩
    | two hlow hx hy => exact (readOne_two_eq_char_iff hlow hx).mpr ⟨_, hy, rfl, rfl⟩
    | three hx hy hz hshort hsurrogate =>
        exact (readOne_three_eq_char_iff hx).mpr ⟨_, hy, _, hz, hshort, hsurrogate, rfl, rfl⟩
    | four hx hy hz hv hshort hbeyond =>
        exact (readOne_four_eq_char_iff hx).mpr ⟨_, hy, _, hz, _, hv, hshort, hbeyond, rfl, rfl⟩

theorem encodeChar_ne_nil (c : Char) : encodeChar c ≠ [] := by
  intro hnil
  have hsequence := sequence_encodeChar c
  rw [hnil] at hsequence
  cases hsequence

/-- Reading a character from bytes is finding its spelling at their beginning. -/
theorem readOne_eq_char_iff_append {c : Char} {b : UInt8} {bytes rest : List UInt8} :
    readOne b bytes = (.char c, rest) ↔ encodeChar c ++ rest = b :: bytes := by
  rw [readOne_eq_char_iff]
  constructor
  · rintro ⟨tail, rfl, h⟩
    rw [h.encodeChar_eq, List.cons_append]
  · intro h
    have hsequence := sequence_encodeChar c
    obtain ⟨first, tail, hspelling⟩ := List.exists_cons_of_ne_nil (encodeChar_ne_nil c)
    rw [hspelling, List.cons_append] at h
    obtain ⟨rfl, rfl⟩ := List.cons.inj h
    exact ⟨tail, rfl, hspelling ▸ hsequence⟩

/-! ## (3) Reading texts -/

theorem charsOf_cons_eq_ok_iff {piece : Piece} {pieces : List Piece} {cs : List Char} :
    charsOf (piece :: pieces) = .ok cs
      ↔ ∃ c cs', piece = .char c ∧ charsOf pieces = .ok cs' ∧ cs = c :: cs' := by
  cases piece with
  | fault reason => exact iff_of_false nofun (by rintro ⟨c, cs', ⟨⟩, -⟩)
  | char c =>
      rw [charsOf]
      cases charsOf pieces with
      | error reason => exact iff_of_false nofun (by rintro ⟨c', cs', -, ⟨⟩, -⟩)
      | ok cs' =>
          constructor
          · rintro ⟨⟩
            exact ⟨c, cs', rfl, rfl, rfl⟩
          · rintro ⟨_, _, ⟨⟩, ⟨⟩, rfl⟩
            rfl

/-- **Characters are read from their spellings**, one after the other, and from nothing else. -/
theorem charsOf_pieces_eq_ok_iff {bytes : List UInt8} {cs : List Char} :
    charsOf (pieces bytes) = .ok cs ↔ cs.flatMap encodeChar = bytes := by
  induction bytes using pieces.induct generalizing cs with
  | case1 =>
      rw [pieces_nil]
      cases cs with
      | nil => exact iff_of_true rfl rfl
      | cons c cs => simp [charsOf, encodeChar_ne_nil]
  | case2 b bytes read =>
      rename_i ih
      rw [pieces_cons, charsOf_cons_eq_ok_iff]
      simp only [read] at ih
      simp only [ih]
      constructor
      · rintro ⟨c, cs, hpiece, hrest, rfl⟩
        rw [List.flatMap_cons, ← readOne_eq_char_iff_append]
        exact Prod.ext hpiece hrest.symm
      · intro h
        cases cs with
        | nil => cases h
        | cons c cs =>
            rw [List.flatMap_cons, ← readOne_eq_char_iff_append] at h
            exact ⟨c, cs, by rw [h], by rw [h], rfl⟩

/-- **Bytes are read as a text exactly if they spell it.** -/
theorem decode_eq_ok_iff {bytes : List UInt8} {s : String} :
    decode bytes = .ok s ↔ encode s = bytes := by
  rw [encode, ← charsOf_pieces_eq_ok_iff, decode]
  cases charsOf (pieces bytes) with
  | error reason => exact iff_of_false nofun nofun
  | ok cs =>
      rw [Except.map, Except.ok.injEq, Except.ok.injEq]
      exact ⟨fun h => h ▸ String.toList_ofList.symm, fun h => h ▸ String.ofList_toList⟩

/-- **Bytes are refused exactly if they spell no text.** -/
theorem exists_decode_eq_error_iff {bytes : List UInt8} :
    (∃ reason, decode bytes = .error reason) ↔ ∀ s, encode s ≠ bytes := by
  constructor
  · rintro ⟨reason, h⟩ s hs
    rw [decode_eq_ok_iff.mpr hs] at h
    cases h
  · intro h
    cases hdecode : decode bytes with
    | error reason => exact ⟨reason, rfl⟩
    | ok s => exact absurd (decode_eq_ok_iff.mp hdecode) (h s)

end Pseudoword.Text.Utf8
