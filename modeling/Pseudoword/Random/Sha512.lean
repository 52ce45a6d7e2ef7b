/-! # SHA-512

The 512-bit digest of the Secure Hash Standard, over lists of bytes. A message is padded to blocks of
128 bytes; each block is spread to eighty words of 64 bits, which stir eight words of state.

* `Sha512.digest` — the digest, as 64 bytes.
-/

namespace Pseudoword.Sha512

/-- The round constants: the first 64 bits of the fractional parts of the cube roots of the first
eighty primes. -/
def roundConstants : Array UInt64 :=
  #[0x428A2F98D728AE22, 0x7137449123EF65CD, 0xB5C0FBCFEC4D3B2F, 0xE9B5DBA58189DBBC,
    0x3956C25BF348B538, 0x59F111F1B605D019, 0x923F82A4AF194F9B, 0xAB1C5ED5DA6D8118,
    0xD807AA98A3030242, 0x12835B0145706FBE, 0x243185BE4EE4B28C, 0x550C7DC3D5FFB4E2,
    0x72BE5D74F27B896F, 0x80DEB1FE3B1696B1, 0x9BDC06A725C71235, 0xC19BF174CF692694,
    0xE49B69C19EF14AD2, 0xEFBE4786384F25E3, 0x0FC19DC68B8CD5B5, 0x240CA1CC77AC9C65,
    0x2DE92C6F592B0275, 0x4A7484AA6EA6E483, 0x5CB0A9DCBD41FBD4, 0x76F988DA831153B5,
    0x983E5152EE66DFAB, 0xA831C66D2DB43210, 0xB00327C898FB213F, 0xBF597FC7BEEF0EE4,
    0xC6E00BF33DA88FC2, 0xD5A79147930AA725, 0x06CA6351E003826F, 0x142929670A0E6E70,
    0x27B70A8546D22FFC, 0x2E1B21385C26C926, 0x4D2C6DFC5AC42AED, 0x53380D139D95B3DF,
    0x650A73548BAF63DE, 0x766A0ABB3C77B2A8, 0x81C2C92E47EDAEE6, 0x92722C851482353B,
    0xA2BFE8A14CF10364, 0xA81A664BBC423001, 0xC24B8B70D0F89791, 0xC76C51A30654BE30,
    0xD192E819D6EF5218, 0xD69906245565A910, 0xF40E35855771202A, 0x106AA07032BBD1B8,
    0x19A4C116B8D2D0C8, 0x1E376C085141AB53, 0x2748774CDF8EEB99, 0x34B0BCB5E19B48A8,
    0x391C0CB3C5C95A63, 0x4ED8AA4AE3418ACB, 0x5B9CCA4F7763E373, 0x682E6FF3D6B2B8A3,
    0x748F82EE5DEFB2FC, 0x78A5636F43172F60, 0x84C87814A1F0AB72, 0x8CC702081A6439EC,
    0x90BEFFFA23631E28, 0xA4506CEBDE82BDE9, 0xBEF9A3F7B2C67915, 0xC67178F2E372532B,
    0xCA273ECEEA26619C, 0xD186B8C721C0C207, 0xEADA7DD6CDE0EB1E, 0xF57D4F7FEE6ED178,
    0x06F067AA72176FBA, 0x0A637DC5A2C898A6, 0x113F9804BEF90DAE, 0x1B710B35131C471B,
    0x28DB77F523047D84, 0x32CAAB7B40C72493, 0x3C9EBE0A15C9BEBC, 0x431D67C49C100D4C,
    0x4CC5D4BECB3E42B6, 0x597F299CFC657E2A, 0x5FCB6FAB3AD6FAEC, 0x6C44198C4A475817]

/-- The state before the first block: the first 64 bits of the fractional parts of the square roots
of the first eight primes. -/
def initialState : List UInt64 :=
  [0x6A09E667F3BCC908, 0xBB67AE8584CAA73B, 0x3C6EF372FE94F82B, 0xA54FF53A5F1D36F1,
   0x510E527FADE682D1, 0x9B05688C2B3E6C1F, 0x1F83D9ABFB41BD6B, 0x5BE0CD19137E2179]

/-- Rotate a word to the right. -/
def rotate (w : UInt64) (n : UInt64) : UInt64 :=
  (w >>> n) ||| (w <<< (64 - n))

/-- The number that bytes spell, the most significant byte first. -/
def word (bytes : List UInt8) : UInt64 :=
  bytes.foldl (fun w b => (w <<< 8) ||| b.toUInt64) 0

/-- The bytes of a word, the most significant first. -/
def wordBytes (w : UInt64) : List UInt8 :=
  (List.range 8).map fun i => (w >>> UInt64.ofNat (8 * (7 - i))).toUInt8

/-- Cut a list into pieces of a given positive length; fewer at the end are left out. -/
def pieces {α : Type} (size : Nat) (xs : List α) : List (List α) :=
  (List.range (xs.length / size)).map fun i => (xs.drop (i * size)).take size

/-- The message with a one bit, zeros and its length in bits, in whole blocks. -/
def pad (message : List UInt8) : List UInt8 :=
  let zeros := (239 - message.length % 128) % 128
  message ++ 0x80 :: List.replicate zeros 0
    ++ List.replicate 8 0 ++ wordBytes (UInt64.ofNat (8 * message.length))

/-- The eighty words of a block. -/
def schedule (block : List UInt8) : Array UInt64 :=
  (List.range 64).foldl
    (fun ws i =>
      let entry := fun j => ws.getD (i + j) 0
      let low := rotate (entry 1) 1 ^^^ rotate (entry 1) 8 ^^^ (entry 1 >>> 7)
      let high := rotate (entry 14) 19 ^^^ rotate (entry 14) 61 ^^^ (entry 14 >>> 6)
      ws.push (entry 0 + low + entry 9 + high))
    ((pieces 8 block).map word).toArray

/-- Stir a state with one word of a block and its round constant. -/
def stir : List UInt64 → UInt64 × UInt64 → List UInt64
  | [a, b, c, d, e, f, g, h], (w, k) =>
    let choice := (e &&& f) ^^^ (~~~e &&& g)
    let majority := (a &&& b) ^^^ (a &&& c) ^^^ (b &&& c)
    let first := h + (rotate e 14 ^^^ rotate e 18 ^^^ rotate e 41) + choice + k + w
    let second := (rotate a 28 ^^^ rotate a 34 ^^^ rotate a 39) + majority
    [first + second, a, b, c, d + first, e, f, g]
  | state, _ => state

/-- The state after one more block. -/
def compress (state : List UInt64) (block : List UInt8) : List UInt64 :=
  let stirred := ((schedule block).toList.zip roundConstants.toList).foldl stir state
  List.zipWith (· + ·) state stirred

/-- The digest of a message. -/
def digest (message : List UInt8) : List UInt8 :=
  ((pieces 128 (pad message)).foldl compress initialState).flatMap wordBytes

end Pseudoword.Sha512
