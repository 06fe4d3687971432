import SiteCache.Octets

/-!
# SHA-256

The digest of a byte string: thirty-two octets.  The message is padded to whole blocks of
sixty-four octets (`pad`), each block is expanded to sixty-four words (`schedule`), and the
rounds stir them into a chain of eight words (`Chain`).
-/

namespace SiteCache.Digest

/-- The words of the round constants: the first thirty-two bits of the fractional parts of the cube
roots of the first sixty-four primes. -/
def roundConstants : List UInt32 :=
  [0x428a2f98, 0x71374491, 0xb5c0fbcf, 0xe9b5dba5, 0x3956c25b, 0x59f111f1, 0x923f82a4, 0xab1c5ed5,
    0xd807aa98, 0x12835b01, 0x243185be, 0x550c7dc3, 0x72be5d74, 0x80deb1fe, 0x9bdc06a7, 0xc19bf174,
    0xe49b69c1, 0xefbe4786, 0x0fc19dc6, 0x240ca1cc, 0x2de92c6f, 0x4a7484aa, 0x5cb0a9dc, 0x76f988da,
    0x983e5152, 0xa831c66d, 0xb00327c8, 0xbf597fc7, 0xc6e00bf3, 0xd5a79147, 0x06ca6351, 0x14292967,
    0x27b70a85, 0x2e1b2138, 0x4d2c6dfc, 0x53380d13, 0x650a7354, 0x766a0abb, 0x81c2c92e, 0x92722c85,
    0xa2bfe8a1, 0xa81a664b, 0xc24b8b70, 0xc76c51a3, 0xd192e819, 0xd6990624, 0xf40e3585, 0x106aa070,
    0x19a4c116, 0x1e376c08, 0x2748774c, 0x34b0bcb5, 0x391c0cb3, 0x4ed8aa4a, 0x5b9cca4f, 0x682e6ff3,
    0x748f82ee, 0x78a5636f, 0x84c87814, 0x8cc70208, 0x90befffa, 0xa4506ceb, 0xbef9a3f7, 0xc67178f2]

/-- The eight words that a block changes. -/
structure Chain where
  a : UInt32
  b : UInt32
  c : UInt32
  d : UInt32
  e : UInt32
  f : UInt32
  g : UInt32
  h : UInt32

/-- The chain before the first block: the first thirty-two bits of the fractional parts of the
square roots of the first eight primes. -/
def Chain.start : Chain :=
  ⟨0x6a09e667, 0xbb67ae85, 0x3c6ef372, 0xa54ff53a, 0x510e527f, 0x9b05688c, 0x1f83d9ab, 0x5be0cd19⟩

/-- Wordwise sum of two chains. -/
def Chain.add (x y : Chain) : Chain :=
  ⟨x.a + y.a, x.b + y.b, x.c + y.c, x.d + y.d, x.e + y.e, x.f + y.f, x.g + y.g, x.h + y.h⟩

/-- A chain as octets, word after word. -/
def Chain.octets (x : Chain) : Octets :=
  [x.a, x.b, x.c, x.d, x.e, x.f, x.g, x.h].flatMap (fun w => Octets.bigEndian 4 w.toNat)

/-- Rotation to the right. -/
def rotate (x n : UInt32) : UInt32 := (x >>> n) ||| (x <<< (32 - n))

/-- One round with a constant and a word of the schedule. -/
def Chain.round (x : Chain) (constant word : UInt32) : Chain :=
  let mix := rotate x.e 6 ^^^ rotate x.e 11 ^^^ rotate x.e 25
  let choice := (x.e &&& x.f) ^^^ ((~~~ x.e) &&& x.g)
  let first := x.h + mix + choice + constant + word
  let swirl := rotate x.a 2 ^^^ rotate x.a 13 ^^^ rotate x.a 22
  let majority := (x.a &&& x.b) ^^^ (x.a &&& x.c) ^^^ (x.b &&& x.c)
  ⟨first + (swirl + majority), x.a, x.b, x.c, x.d + first, x.e, x.f, x.g⟩

/-- Appends `n` further words to a schedule held newest first. -/
def expand : Nat → List UInt32 → List UInt32
  | 0, ws => ws
  | n + 1, ws =>
    let at_ (i : Nat) : UInt32 := ws.getD i 0
    let near := rotate (at_ 14) 7 ^^^ rotate (at_ 14) 18 ^^^ (at_ 14 >>> 3)
    let far := rotate (at_ 1) 17 ^^^ rotate (at_ 1) 19 ^^^ (at_ 1 >>> 10)
    expand n ((at_ 15 + near + at_ 6 + far) :: ws)

/-- The sixty-four words of a block. -/
def schedule (block : Octets) : List UInt32 :=
  (expand 48 ((batches 4 block).map (fun w => UInt32.ofNat (Octets.toNat w))).reverse).reverse

/-- Stirs one block into a chain. -/
def Chain.compress (x : Chain) (block : Octets) : Chain :=
  x.add ((roundConstants.zip (schedule block)).foldl (fun y r => y.round r.1 r.2) x)

/-- The message with a set bit, the fewest zeros that complete a block, and its length in bits. -/
def pad (message : Octets) : Octets :=
  message ++ 0x80 :: (List.replicate ((119 - message.length % 64) % 64) 0
    ++ Octets.bigEndian 8 (8 * message.length))

/-- The digest of a message. -/
def sha256 (message : Octets) : Octets :=
  ((batches 64 (pad message)).foldl Chain.compress Chain.start).octets

@[simp]
theorem length_sha256 (message : Octets) :
  (sha256 message).length = 32
  := by
  simp [sha256, Chain.octets]

end SiteCache.Digest
