/-! # UTF-8

Reading bytes as text, strictly, with the reason why bytes are no text. A lead byte fixes how many
continuation bytes follow and, for four leads, a narrower range for the first of them; this rules
out overlong forms, surrogates and code points beyond U+10FFFF. Where a sequence breaks off, its
bytes so far form one fault, and reading resumes at the byte that did not fit.

* `Utf8.pieces` — the characters and faults of a sequence of bytes.
* `Utf8.decode` — the text, or the first fault.
* `Utf8.decodeLossy` — the text with one replacement character for each fault.
* `Utf8.encode` — the bytes that spell a text.
* `Utf8.readOne_length_le` — reading one piece consumes what it reads.
-/

namespace Pseudoword.Text.Utf8

/-- Why bytes are not UTF-8. -/
inductive Fault where
  /-- The byte starts no character. -/
  | invalidStart
  /-- The bytes end inside a character. -/
  | unexpectedEnd
  /-- A byte inside a character does not continue it. -/
  | invalidContinuation
  deriving DecidableEq, Repr

/-- The fault in words. -/
def Fault.message : Fault → String
  | .invalidStart => "invalid start byte"
  | .unexpectedEnd => "unexpected end of data"
  | .invalidContinuation => "invalid continuation byte"

/-- A character or a fault. -/
inductive Piece where
  /-- A character in full. -/
  | char (c : Char)
  /-- Bytes that form no character. -/
  | fault (reason : Fault)
  deriving DecidableEq, Repr

/-- Read the remaining continuation bytes of a character. The first of them has to lie between `low`
and `high`, and `value` holds the bits read so far. -/
def readTail : Nat → UInt8 → UInt8 → Nat → List UInt8 → Piece × List UInt8
  | 0, _, _, value, bytes => (.char (Char.ofNat value), bytes)
  | _ + 1, _, _, _, [] => (.fault .unexpectedEnd, [])
  | needed + 1, low, high, value, b :: bytes =>
    if low ≤ b ∧ b ≤ high then
      readTail needed 0x80 0xBF (value * 64 + (b.toNat - 0x80)) bytes
    else (.fault .invalidContinuation, b :: bytes)

/-- Read one character or fault after its first byte. -/
def readOne (b : UInt8) (bytes : List UInt8) : Piece × List UInt8 :=
  if b < 0x80 then (.char (Char.ofNat b.toNat), bytes)
  else if b < 0xC2 then (.fault .invalidStart, bytes)
  else if b < 0xE0 then readTail 1 0x80 0xBF (b.toNat - 0xC0) bytes
  else if b < 0xF0 then
    readTail 2 (if b = 0xE0 then 0xA0 else 0x80) (if b = 0xED then 0x9F else 0xBF)
      (b.toNat - 0xE0) bytes
  else if b < 0xF5 then
    readTail 3 (if b = 0xF0 then 0x90 else 0x80) (if b = 0xF4 then 0x8F else 0xBF)
      (b.toNat - 0xF0) bytes
  else (.fault .invalidStart, bytes)

theorem readTail_length_le (needed : Nat) (low high : UInt8) (value : Nat) (bytes : List UInt8) :
    (readTail needed low high value bytes).2.length ≤ bytes.length := by
  fun_induction readTail needed low high value bytes with
  | case1 => exact Nat.le_refl _
  | case2 => exact Nat.le_refl _
  | case3 needed low high value b bytes _ ih => exact Nat.le_trans ih (Nat.le_succ _)
  | case4 => exact Nat.le_refl _

theorem readOne_length_le (b : UInt8) (bytes : List UInt8) :
    (readOne b bytes).2.length ≤ bytes.length := by
  unfold readOne
  repeat' split
  all_goals first | exact Nat.le_refl _ | exact readTail_length_le ..

/-- The characters and faults of a sequence of bytes. -/
def pieces : List UInt8 → List Piece
  | [] => []
  | b :: bytes =>
    let read := readOne b bytes
    read.1 :: pieces read.2
termination_by bytes => bytes.length
decreasing_by exact Nat.lt_succ_of_le (readOne_length_le b bytes)

/-- The characters of a sequence of pieces, up to the first fault. -/
def charsOf : List Piece → Except Fault (List Char)
  | [] => .ok []
  | .char c :: rest => (charsOf rest).map (c :: ·)
  | .fault reason :: _ => .error reason

/-- The text that the bytes spell, or the first fault in them. -/
def decode (bytes : List UInt8) : Except Fault String :=
  (charsOf (pieces bytes)).map String.ofList

/-- The replacement character, shown for a fault. -/
def replacement : Char := '\uFFFD'

/-- The text that the bytes spell, with one replacement character for each fault. -/
def decodeLossy (bytes : List UInt8) : String :=
  String.ofList <| (pieces bytes).map fun
    | .char c => c
    | .fault _ => replacement

/-- A continuation byte, which holds six bits. -/
def continuation (bits : Nat) : UInt8 :=
  UInt8.ofNat (0x80 + bits % 64)

/-- The bytes that spell a character. -/
def encodeChar (c : Char) : List UInt8 :=
  let n := c.toNat
  if n < 0x80 then [UInt8.ofNat n]
  else if n < 0x800 then [UInt8.ofNat (0xC0 + n / 64), continuation n]
  else if n < 0x10000 then
    [UInt8.ofNat (0xE0 + n / 4096), continuation (n / 64), continuation n]
  else
    [UInt8.ofNat (0xF0 + n / 262144), continuation (n / 4096), continuation (n / 64),
      continuation n]

/-- The bytes that spell a text. -/
def encode (s : String) : List UInt8 :=
  s.toList.flatMap encodeChar

@[simp] theorem pieces_nil : pieces [] = [] := by
  simp [pieces]

theorem pieces_cons (b : UInt8) (bytes : List UInt8) :
    pieces (b :: bytes) = (readOne b bytes).1 :: pieces (readOne b bytes).2 := by
  rw [pieces]

end Pseudoword.Text.Utf8
