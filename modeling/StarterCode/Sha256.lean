import StarterCode.Text.Hex

/-!
# SHA-256

The digest of a byte sequence, written as a fold over its blocks. The message is padded to whole
blocks of sixteen words, each block is stretched to sixty-four words, and each of those words takes
part in one round that mixes the eight words of the state.

The two tables of constants are the leading thirty-two bits of the fractional parts of roots of
primes: square roots of the first eight for the state at the start, cube roots of the first
sixty-four for the rounds.
-/

set_option autoImplicit false

namespace StarterCode.Sha256

/-! ## Words -/

/-- The word rotated to the right. -/
def rotateRight (w : UInt32) (n : UInt32) : UInt32 :=
  (w >>> n) ||| (w <<< (32 - n))

/-- The word of four bytes, the most significant one first. -/
def wordOfBytes (a b c d : UInt8) : UInt32 :=
  (a.toUInt32 <<< 24) ||| (b.toUInt32 <<< 16) ||| (c.toUInt32 <<< 8) ||| d.toUInt32

/-- The words of a sequence of bytes, four bytes to each. -/
def wordsOfBytes : List UInt8 → List UInt32
  | a :: b :: c :: d :: rest => wordOfBytes a b c d :: wordsOfBytes rest
  | _ => []

/-! ## Padding -/

/-- The last `count` digits of a number in base 256, the most significant one first. -/
def bytesOfNat : (count : Nat) → Nat → List UInt8
  | 0, _ => []
  | count + 1, n => bytesOfNat count (n / 256) ++ [UInt8.ofNat n]

/-- The number of bits of a message of `size` bytes, in eight bytes. -/
def lengthBytes (size : Nat) : List UInt8 :=
  bytesOfNat 8 (8 * size)

/-- The message, a one bit, as many zero bits as make whole blocks, and the length. -/
def padded (message : List UInt8) : List UInt8 :=
  message ++ [0x80] ++ List.replicate ((119 - message.length % 64) % 64) 0 ++
    lengthBytes message.length

/-! ## Rounds -/

/-- The constant of each round. -/
def roundConstants : List UInt32 := [
  0x428a2f98, 0x71374491, 0xb5c0fbcf, 0xe9b5dba5, 0x3956c25b, 0x59f111f1,
  0x923f82a4, 0xab1c5ed5, 0xd807aa98, 0x12835b01, 0x243185be, 0x550c7dc3,
  0x72be5d74, 0x80deb1fe, 0x9bdc06a7, 0xc19bf174, 0xe49b69c1, 0xefbe4786,
  0x0fc19dc6, 0x240ca1cc, 0x2de92c6f, 0x4a7484aa, 0x5cb0a9dc, 0x76f988da,
  0x983e5152, 0xa831c66d, 0xb00327c8, 0xbf597fc7, 0xc6e00bf3, 0xd5a79147,
  0x06ca6351, 0x14292967, 0x27b70a85, 0x2e1b2138, 0x4d2c6dfc, 0x53380d13,
  0x650a7354, 0x766a0abb, 0x81c2c92e, 0x92722c85, 0xa2bfe8a1, 0xa81a664b,
  0xc24b8b70, 0xc76c51a3, 0xd192e819, 0xd6990624, 0xf40e3585, 0x106aa070,
  0x19a4c116, 0x1e376c08, 0x2748774c, 0x34b0bcb5, 0x391c0cb3, 0x4ed8aa4a,
  0x5b9cca4f, 0x682e6ff3, 0x748f82ee, 0x78a5636f, 0x84c87814, 0x8cc70208,
  0x90befffa, 0xa4506ceb, 0xbef9a3f7, 0xc67178f2]

/-- The eight words that are mixed. -/
structure State where
  /-- The first word. -/
  a : UInt32
  /-- The second word. -/
  b : UInt32
  /-- The third word. -/
  c : UInt32
  /-- The fourth word. -/
  d : UInt32
  /-- The fifth word. -/
  e : UInt32
  /-- The sixth word. -/
  f : UInt32
  /-- The seventh word. -/
  g : UInt32
  /-- The eighth word. -/
  h : UInt32

/-- The state before the first block. -/
def initial : State :=
  ⟨0x6a09e667, 0xbb67ae85, 0x3c6ef372, 0xa54ff53a, 0x510e527f, 0x9b05688c,
    0x1f83d9ab, 0x5be0cd19⟩

/-- One round with its word, the constant added. -/
def round (s : State) (w : UInt32) : State :=
  let sum1 := rotateRight s.e 6 ^^^ rotateRight s.e 11 ^^^ rotateRight s.e 25
  let choice := (s.e &&& s.f) ^^^ (~~~s.e &&& s.g)
  let t1 := s.h + sum1 + choice + w
  let sum0 := rotateRight s.a 2 ^^^ rotateRight s.a 13 ^^^ rotateRight s.a 22
  let majority := (s.a &&& s.b) ^^^ (s.a &&& s.c) ^^^ (s.b &&& s.c)
  ⟨t1 + (sum0 + majority), s.a, s.b, s.c, s.d + t1, s.e, s.f, s.g⟩

/-- The words of a block and `count` further ones, each made of four before it. The words come in
reverse, the latest first. -/
def stretch : (count : Nat) → List UInt32 → List UInt32
  | 0, ws => ws
  | count + 1, ws =>
    let w15 := ws.getD 14 0
    let w2 := ws.getD 1 0
    let s0 := rotateRight w15 7 ^^^ rotateRight w15 18 ^^^ (w15 >>> 3)
    let s1 := rotateRight w2 17 ^^^ rotateRight w2 19 ^^^ (w2 >>> 10)
    stretch count ((ws.getD 15 0 + s0 + ws.getD 6 0 + s1) :: ws)

/-- The state after one block. -/
def absorb (s : State) (block : List UInt32) : State :=
  let schedule := (stretch 48 block.reverse).reverse
  let t := (roundConstants.zipWith (· + ·) schedule).foldl round s
  ⟨s.a + t.a, s.b + t.b, s.c + t.c, s.d + t.d, s.e + t.e, s.f + t.f, s.g + t.g, s.h + t.h⟩

/-- The state after `count` blocks of sixteen words. -/
def absorbAll (s : State) : (count : Nat) → List UInt32 → State
  | 0, _ => s
  | count + 1, ws => absorbAll (absorb s (ws.take 16)) count (ws.drop 16)

/-! ## The digest -/

/-- The eight words of the digest. -/
def digest (message : ByteArray) : List UInt32 :=
  let ws := wordsOfBytes (padded message.toList)
  let s := absorbAll initial (ws.length / 16) ws
  [s.a, s.b, s.c, s.d, s.e, s.f, s.g, s.h]

/-- The digest in sixty-four hexadecimal digits. -/
def hexDigest (message : ByteArray) : String :=
  String.ofList ((digest message).flatMap fun w => Text.hex 8 w.toNat)

end StarterCode.Sha256
