import Pseudoword.Random.Draw

/-! # The Mersenne twister

The generator MT19937: 624 words of 32 bits that are renewed together and handed out one by one,
each after a tempering. It is seeded by a list of words, here the base `2 ^ 32` digits of a natural
number. A draw takes two outputs for the 53 bits of a number below one.

* `Mersenne.Ring` — the words of a state while a seed is mixed into them.
* `Mersenne.ofSeed` — the generator with a given seed.
* `Mersenne.renew` — the words that follow those of a state.
* `Mersenne.next`, `Mersenne.draw` — one output and one draw.
* `Mersenne.draws` — the first draws as a list, which is what sampling reads.
-/

namespace Pseudoword

/-- A state of the generator. -/
structure Mersenne where
  /-- The words that were made together. -/
  words : List UInt32
  /-- Those of them that have not been handed out. -/
  rest : List UInt32

namespace Mersenne

/-- How many words a state has. -/
def degree : Nat := 624

/-- How far apart the words are that a renewal combines. -/
def offset : Nat := 397

/-! ## Seeding -/

/-- A word mixed with its own upper bits. -/
def spread (w : UInt32) : UInt32 :=
  w ^^^ (w >>> 30)

/-- A word and a number of others that follow from it by a linear recurrence, counted from a place. -/
def expandFrom : Nat → Nat → UInt32 → List UInt32
  | 0, _, w => [w]
  | more + 1, i, w =>
    w :: expandFrom more (i + 1) (1812433253 * spread w + UInt32.ofNat (i + 1))

/-- The words of a state that follow from a single one. -/
def expand (seed : UInt32) : List UInt32 :=
  expandFrom (degree - 1) 0 seed

/-- The words of a state at places 1 to 623, which are replaced round by round. After the last of them
comes the first again, and each is replaced by what the one replaced before it has come to. -/
structure Ring where
  /-- The words from the next one on, in order. -/
  ahead : List UInt32
  /-- The words before it, the nearest first. -/
  behind : List UInt32
  /-- The word that was put in last. -/
  last : UInt32

namespace Ring

/-- Replace the next word, which is mixed with the one that was put in last. -/
def step (mix : UInt32 → UInt32 → UInt32) (ring : Ring) : Ring :=
  let put (w : UInt32) (ahead behind : List UInt32) : Ring :=
    let new := mix ring.last w
    ⟨ahead, new :: behind, new⟩
  match ring.ahead with
  | w :: ahead => put w ahead ring.behind
  | [] =>
    match ring.behind.reverse with
    | w :: ahead => put w ahead []
    | [] => ring

/-- The words in the order of their places. -/
def words (ring : Ring) : List UInt32 :=
  ring.behind.reverse ++ ring.ahead

end Ring

/-- The place that is worked on in round `n`, if the work starts at place 1. -/
def roundPlace (n : Nat) : Nat :=
  n % (degree - 1) + 1

/-- Mix the words of a key into a ring, in a number of rounds. -/
def absorb (key : Array UInt32) (rounds : Nat) (ring : Ring) : Ring :=
  (List.range rounds).foldl
    (fun ring n =>
      let j := n % key.size
      ring.step fun last w =>
        (w ^^^ (spread last * 1664525)) + key.getD j 0 + UInt32.ofNat j)
    ring

/-- Go once more over a ring that has absorbed a key in a number of rounds. -/
def settle (rounds : Nat) (ring : Ring) : Ring :=
  (List.range (degree - 1)).foldl
    (fun ring n =>
      ring.step fun last w =>
        (w ^^^ (spread last * 1566083941)) - UInt32.ofNat (roundPlace (rounds + n)))
    ring

/-- The base `2 ^ 32` digits of a number, the lowest first. Zero has one digit. -/
def digits (n : Nat) : List UInt32 :=
  if n < 0x100000000 then [UInt32.ofNat n]
  else UInt32.ofNat (n % 0x100000000) :: digits (n / 0x100000000)
termination_by n
decreasing_by omega

/-- The generator seeded with a natural number. All of its words count as handed out. -/
def ofSeed (seed : Nat) : Mersenne :=
  let key := (digits seed).toArray
  let rounds := max degree key.size
  let start := expand 19650218
  let ring := settle rounds (absorb key rounds ⟨start.tail, [], start.headD 0⟩)
  ⟨0x80000000 :: ring.words, []⟩

/-! ## Handing out -/

/-- New words: each is made from a word, its successor and a word at the fixed distance. -/
def twisted : List UInt32 → List UInt32 → List UInt32
  | w :: successor :: words, far :: fars =>
    let joined := (w &&& 0x80000000) ||| (successor &&& 0x7FFFFFFF)
    let twist : UInt32 := if joined &&& 1 = 1 then 0x9908B0DF else 0
    (far ^^^ (joined >>> 1) ^^^ twist) :: twisted (successor :: words) fars
  | _, _ => []

/-- The words that follow those of a state. They are made in order, and where there is no word at the
fixed distance any more, the new ones take its place. -/
def renew (words : List UInt32) : List UInt32 :=
  let stride := degree - offset
  let first := twisted words (words.drop offset)
  let second := twisted (words.drop stride) first
  let third := twisted (words.drop (2 * stride) ++ first.take 1) second
  first ++ second ++ third

/-- Temper a word before it is handed out. -/
def temper (w : UInt32) : UInt32 :=
  let w := w ^^^ (w >>> 11)
  let w := w ^^^ ((w <<< 7) &&& 0x9D2C5680)
  let w := w ^^^ ((w <<< 15) &&& 0xEFC60000)
  w ^^^ (w >>> 18)

/-- One output, and the state after it. -/
def next (m : Mersenne) : UInt32 × Mersenne :=
  match m.rest with
  | w :: rest => (temper w, { m with rest })
  | [] =>
    let words := renew m.words
    (temper (words.headD 0), ⟨words, words.tail⟩)

/-- One draw, and the state after it: the upper 27 bits of one output before the upper 26 of the
next make a number of 53 bits, which is divided by `2 ^ 53`. -/
def draw (m : Mersenne) : Draw × Mersenne :=
  let (a, m) := m.next
  let (b, m) := m.next
  (.level (.ofRatio ((a >>> 5).toNat * Nat.pow 2 26 + (b >>> 6).toNat) (Nat.pow 2 53)), m)

/-- The state after a number of draws. -/
def skip : Nat → Mersenne → Mersenne
  | 0, m => m
  | n + 1, m => skip n m.draw.2

/-- Put the next draws before those that are already listed in reverse. -/
def drawsOnto : Nat → Mersenne → List Draw → List Draw
  | 0, _, drawn => drawn.reverse
  | n + 1, m, drawn =>
    let (u, m) := m.draw
    drawsOnto n m (u :: drawn)

/-- The next draws, in order. -/
def draws (n : Nat) (m : Mersenne) : List Draw :=
  drawsOnto n m []

end Mersenne
end Pseudoword
