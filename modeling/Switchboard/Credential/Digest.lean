/-
**A digest of 512 bits.**

Bytes are filled up to whole blocks of 128 bytes and mixed into eight words of 64 bits, block by
block, in eighty rounds each. The round constants are the first 64 bits behind the point of the cube
roots of the first eighty primes, the first words those of the square roots of the first eight.

* `length_digest`: a digest has 64 bytes.
-/

import Switchboard.Credential.Element

namespace Switchboard.Credential.Digest

/-- The constants of the rounds. -/
def roundConstants : List UInt64 := [
  0x428a2f98d728ae22, 0x7137449123ef65cd, 0xb5c0fbcfec4d3b2f, 0xe9b5dba58189dbbc,
  0x3956c25bf348b538, 0x59f111f1b605d019, 0x923f82a4af194f9b, 0xab1c5ed5da6d8118,
  0xd807aa98a3030242, 0x12835b0145706fbe, 0x243185be4ee4b28c, 0x550c7dc3d5ffb4e2,
  0x72be5d74f27b896f, 0x80deb1fe3b1696b1, 0x9bdc06a725c71235, 0xc19bf174cf692694,
  0xe49b69c19ef14ad2, 0xefbe4786384f25e3, 0x0fc19dc68b8cd5b5, 0x240ca1cc77ac9c65,
  0x2de92c6f592b0275, 0x4a7484aa6ea6e483, 0x5cb0a9dcbd41fbd4, 0x76f988da831153b5,
  0x983e5152ee66dfab, 0xa831c66d2db43210, 0xb00327c898fb213f, 0xbf597fc7beef0ee4,
  0xc6e00bf33da88fc2, 0xd5a79147930aa725, 0x06ca6351e003826f, 0x142929670a0e6e70,
  0x27b70a8546d22ffc, 0x2e1b21385c26c926, 0x4d2c6dfc5ac42aed, 0x53380d139d95b3df,
  0x650a73548baf63de, 0x766a0abb3c77b2a8, 0x81c2c92e47edaee6, 0x92722c851482353b,
  0xa2bfe8a14cf10364, 0xa81a664bbc423001, 0xc24b8b70d0f89791, 0xc76c51a30654be30,
  0xd192e819d6ef5218, 0xd69906245565a910, 0xf40e35855771202a, 0x106aa07032bbd1b8,
  0x19a4c116b8d2d0c8, 0x1e376c085141ab53, 0x2748774cdf8eeb99, 0x34b0bcb5e19b48a8,
  0x391c0cb3c5c95a63, 0x4ed8aa4ae3418acb, 0x5b9cca4f7763e373, 0x682e6ff3d6b2b8a3,
  0x748f82ee5defb2fc, 0x78a5636f43172f60, 0x84c87814a1f0ab72, 0x8cc702081a6439ec,
  0x90befffa23631e28, 0xa4506cebde82bde9, 0xbef9a3f7b2c67915, 0xc67178f2e372532b,
  0xca273eceea26619c, 0xd186b8c721c0c207, 0xeada7dd6cde0eb1e, 0xf57d4f7fee6ed178,
  0x06f067aa72176fba, 0x0a637dc5a2c898a6, 0x113f9804bef90dae, 0x1b710b35131c471b,
  0x28db77f523047d84, 0x32caab7b40c72493, 0x3c9ebe0a15c9bebc, 0x431d67c49c100d4c,
  0x4cc5d4becb3e42b6, 0x597f299cfc657e2a, 0x5fcb6fab3ad6faec, 0x6c44198c4a475817]

/-- The eight words that are mixed. -/
structure Words where
  a : UInt64
  b : UInt64
  c : UInt64
  d : UInt64
  e : UInt64
  f : UInt64
  g : UInt64
  h : UInt64
deriving DecidableEq, Repr

/-- The words in front of the first block. -/
def start : Words where
  a := 0x6a09e667f3bcc908
  b := 0xbb67ae8584caa73b
  c := 0x3c6ef372fe94f82b
  d := 0xa54ff53a5f1d36f1
  e := 0x510e527fade682d1
  f := 0x9b05688c2b3e6c1f
  g := 0x1f83d9abfb41bd6b
  h := 0x5be0cd19137e2179

/-- A word turned to the right. -/
def turn (word : UInt64) (count : UInt64) : UInt64 :=
  (word >>> count) ||| (word <<< (64 - count))

/-- The next word of the schedule, behind sixteen or more words, the last one first. -/
def scheduled (schedule : List UInt64) : UInt64 :=
  let near := schedule.getD 1 0
  let far := schedule.getD 14 0
  (turn near 19 ^^^ turn near 61 ^^^ (near >>> 6)) + schedule.getD 6 0
    + (turn far 1 ^^^ turn far 8 ^^^ (far >>> 7)) + schedule.getD 15 0

/-- The words of a block followed by as many scheduled ones as are asked for, the last one first. -/
def schedule (words : List UInt64) : Nat → List UInt64
  | 0 => words.reverse
  | count + 1 =>
    let before := schedule words count
    scheduled before :: before

/-- One round. -/
def Words.round (words : Words) (constant scheduled : UInt64) : Words :=
  let choice := (words.e &&& words.f) ^^^ (~~~words.e &&& words.g)
  let first := words.h + (turn words.e 14 ^^^ turn words.e 18 ^^^ turn words.e 41) + choice
    + constant + scheduled
  let majority := (words.a &&& words.b) ^^^ (words.a &&& words.c) ^^^ (words.b &&& words.c)
  let second := (turn words.a 28 ^^^ turn words.a 34 ^^^ turn words.a 39) + majority
  ⟨first + second, words.a, words.b, words.c, words.d + first, words.e, words.f, words.g⟩

/-- The sums of words. -/
def Words.add (words other : Words) : Words :=
  ⟨words.a + other.a, words.b + other.b, words.c + other.c, words.d + other.d,
    words.e + other.e, words.f + other.f, words.g + other.g, words.h + other.h⟩

/-- Mix the sixteen words of a block into the words. -/
def Words.mix (words : Words) (block : List UInt64) : Words :=
  words.add (((roundConstants.zip (schedule block 64).reverse).foldl
    (fun mixed (constant, scheduled) => mixed.round constant scheduled)) words)

/-- The pieces of a given size of a list. -/
def pieces (size : Nat) (values : List α) : List (List α) :=
  if size = 0 ∨ values = [] then []
  else values.take size :: pieces size (values.drop size)
termination_by values.length
decreasing_by
  rename_i some
  rw [not_or] at some
  have := List.length_pos_iff.mpr some.2
  simp only [List.length_drop]
  omega

/-- Bytes filled up: a bit, zeros, and the count of bits in sixteen bytes. -/
def fill (octets : List UInt8) : List UInt8 :=
  octets ++ 0x80 :: (List.replicate ((239 - octets.length % 128) % 128) 0
    ++ bytesOfNat 16 (8 * octets.length))

/-- The words that bytes spell. -/
def wordsOf (octets : List UInt8) : List UInt64 :=
  (pieces 8 octets).map fun piece => UInt64.ofNat (natOfBytes piece)

/-- The bytes of eight words. -/
def Words.bytes (words : Words) : List UInt8 :=
  [words.a, words.b, words.c, words.d, words.e, words.f, words.g, words.h].flatMap
    fun word => bytesOfNat 8 word.toNat

/-- The digest of some bytes. -/
def digest (octets : List UInt8) : List UInt8 :=
  ((pieces 16 (wordsOf (fill octets))).foldl Words.mix start).bytes

/-- A digest has 64 bytes. -/
theorem length_digest (octets : List UInt8) : (digest octets).length = 64 := by
  simp [digest, Words.bytes, length_bytesOfNat]

end Switchboard.Credential.Digest
