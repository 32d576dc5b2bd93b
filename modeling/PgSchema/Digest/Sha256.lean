/-!
The secure hash of 256 bits, taken byte by byte.

A `Sha256` is the state of a hash whose message is still open: the chaining value of the full
blocks, the bytes of the block that is not full yet, and the length so far.  `Sha256.absorb` goes on
with more bytes and `Sha256.digest` ends the message; the receiver stays as it was, so one state can
be continued in several ways.
-/

namespace PgSchema.Digest

/-! ### Compression of a block -/

/-- The eight words that are carried from block to block, and from round to round. -/
structure Words where
  a : UInt32
  b : UInt32
  c : UInt32
  d : UInt32
  e : UInt32
  f : UInt32
  g : UInt32
  h : UInt32
  deriving DecidableEq, Repr

namespace Words

/-- Word by word addition. -/
def add (x y : Words) : Words :=
  ⟨x.a + y.a, x.b + y.b, x.c + y.c, x.d + y.d, x.e + y.e, x.f + y.f, x.g + y.g, x.h + y.h⟩

/-- The words in order. -/
def toList (x : Words) : List UInt32 := [x.a, x.b, x.c, x.d, x.e, x.f, x.g, x.h]

end Words

/-- Rotation to the right, by less than the width and more than nothing. -/
def rotate (x : UInt32) (n : UInt32) : UInt32 := (x >>> n) ||| (x <<< (32 - n))

/-- One round, with the sum of its constant and its word of the schedule. -/
def step (x : Words) (k : UInt32) : Words :=
  let s1 := rotate x.e 6 ^^^ rotate x.e 11 ^^^ rotate x.e 25
  let choice := (x.e &&& x.f) ^^^ (~~~x.e &&& x.g)
  let t1 := x.h + s1 + choice + k
  let s0 := rotate x.a 2 ^^^ rotate x.a 13 ^^^ rotate x.a 22
  let majority := (x.a &&& x.b) ^^^ (x.a &&& x.c) ^^^ (x.b &&& x.c)
  ⟨t1 + (s0 + majority), x.a, x.b, x.c, x.d + t1, x.e, x.f, x.g⟩

/-- The next word of the schedule, from the sixteen before it. -/
def nextWord (window : List UInt32) : UInt32 :=
  let w1 := window.getD 1 0
  let w14 := window.getD 14 0
  let s0 := rotate w1 7 ^^^ rotate w1 18 ^^^ (w1 >>> 3)
  let s1 := rotate w14 17 ^^^ rotate w14 19 ^^^ (w14 >>> 10)
  window.getD 0 0 + s0 + window.getD 9 0 + s1

/-- The rounds of a block, one for each constant. -/
def rounds : List UInt32 → List UInt32 → Words → Words
  | [], _, x => x
  | k :: ks, window, x =>
    rounds ks (window.drop 1 ++ [nextWord window]) (step x (k + window.headD 0))

/-- The round constants: the fractions of the cube roots of the first sixty-four primes. -/
def roundConstants : List UInt32 :=
  [0x428a2f98, 0x71374491, 0xb5c0fbcf, 0xe9b5dba5, 0x3956c25b, 0x59f111f1, 0x923f82a4, 0xab1c5ed5,
   0xd807aa98, 0x12835b01, 0x243185be, 0x550c7dc3, 0x72be5d74, 0x80deb1fe, 0x9bdc06a7, 0xc19bf174,
   0xe49b69c1, 0xefbe4786, 0x0fc19dc6, 0x240ca1cc, 0x2de92c6f, 0x4a7484aa, 0x5cb0a9dc, 0x76f988da,
   0x983e5152, 0xa831c66d, 0xb00327c8, 0xbf597fc7, 0xc6e00bf3, 0xd5a79147, 0x06ca6351, 0x14292967,
   0x27b70a85, 0x2e1b2138, 0x4d2c6dfc, 0x53380d13, 0x650a7354, 0x766a0abb, 0x81c2c92e, 0x92722c85,
   0xa2bfe8a1, 0xa81a664b, 0xc24b8b70, 0xc76c51a3, 0xd192e819, 0xd6990624, 0xf40e3585, 0x106aa070,
   0x19a4c116, 0x1e376c08, 0x2748774c, 0x34b0bcb5, 0x391c0cb3, 0x4ed8aa4a, 0x5b9cca4f, 0x682e6ff3,
   0x748f82ee, 0x78a5636f, 0x84c87814, 0x8cc70208, 0x90befffa, 0xa4506ceb, 0xbef9a3f7, 0xc67178f2]

/-- The chaining value of the empty message: the fractions of the square roots of the first eight
primes. -/
def initialWords : Words :=
  ⟨0x6a09e667, 0xbb67ae85, 0x3c6ef372, 0xa54ff53a, 0x510e527f, 0x9b05688c, 0x1f83d9ab, 0x5be0cd19⟩

/-- The words of a block, most significant byte first. -/
def wordsOf : List UInt8 → List UInt32
  | p :: q :: r :: s :: rest =>
    ((p.toUInt32 <<< 24) ||| (q.toUInt32 <<< 16) ||| (r.toUInt32 <<< 8) ||| s.toUInt32) ::
      wordsOf rest
  | _ => []

/-- The chaining value after one more block. -/
def compress (x : Words) (block : List UInt8) : Words :=
  x.add (rounds roundConstants (wordsOf block) x)

/-! ### Open messages -/

/-- A hash whose message is still open.  The bytes of the last block are held newest first. -/
structure Sha256 where
  chain : Words
  pending : List UInt8
  length : Nat
  deriving DecidableEq, Repr

namespace Sha256

/-- The hash of a message without any bytes. -/
def empty : Sha256 := ⟨initialWords, [], 0⟩

/-- One more byte. -/
def push (state : Sha256) (byte : UInt8) : Sha256 :=
  let pending := byte :: state.pending
  if pending.length < 64 then ⟨state.chain, pending, state.length + 1⟩
  else ⟨compress state.chain pending.reverse, [], state.length + 1⟩

/-- More bytes. -/
def absorb (state : Sha256) (bytes : List UInt8) : Sha256 := bytes.foldl push state

/-- The last `width` bytes of a number, most significant byte first. -/
def bytesOf : Nat → Nat → List UInt8
  | 0, _ => []
  | width + 1, n => bytesOf width (n / 256) ++ [UInt8.ofNat n]

/-- What ends a message: a one bit, zeros up to the end of a block, and the length in bits in its
last eight bytes. -/
def padding (length : Nat) : List UInt8 :=
  0x80 :: List.replicate ((119 - length % 64) % 64) 0 ++ bytesOf 8 (8 * length)

/-- The hash of the message so far. -/
def digest (state : Sha256) : List UInt8 :=
  (state.absorb (padding state.length)).chain.toList.flatMap fun w => bytesOf 4 w.toNat

/-- Going on with two runs of bytes is going on with both at once. -/
theorem absorb_append (state : Sha256) (xs ys : List UInt8) :
    state.absorb (xs ++ ys) = (state.absorb xs).absorb ys :=
  List.foldl_append

end Sha256

/-! ### Bytes in hexadecimal -/

/-- The digits, in upper case. -/
def hexTable : List Char := "0123456789ABCDEF".toList

/-- The two digits of a byte. -/
def hexByte (byte : UInt8) : List Char :=
  [hexTable.getD (byte.toNat / 16) '0', hexTable.getD (byte.toNat % 16) '0']

/-- Bytes in upper-case hexadecimal. -/
def hex (bytes : List UInt8) : String := String.ofList (bytes.flatMap hexByte)

end PgSchema.Digest
