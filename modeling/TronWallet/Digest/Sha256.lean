/-!
# SHA-256

The digest of FIPS 180-4 over lists of bytes. A message is padded to whole blocks of
sixteen words (`padded`); each block is spread to sixty-four words (`schedule`)
that are mixed into eight chaining words (`compress`). The chaining state is a
structure of eight words, so the digest's length of 32 bytes holds by construction
(`length_sha256`).
-/

namespace TronWallet.Digest

/-- A word rotated right by `n` bits. -/
def rotateRight (x : UInt32) (n : UInt32) : UInt32 :=
  (x >>> n) ||| (x <<< (32 - n))

/-- The first 32 bits of the fractional parts of the cube roots of the first 64 primes. -/
def roundConstants : List UInt32 :=
  [0x428a2f98, 0x71374491, 0xb5c0fbcf, 0xe9b5dba5, 0x3956c25b, 0x59f111f1, 0x923f82a4, 0xab1c5ed5,
   0xd807aa98, 0x12835b01, 0x243185be, 0x550c7dc3, 0x72be5d74, 0x80deb1fe, 0x9bdc06a7, 0xc19bf174,
   0xe49b69c1, 0xefbe4786, 0x0fc19dc6, 0x240ca1cc, 0x2de92c6f, 0x4a7484aa, 0x5cb0a9dc, 0x76f988da,
   0x983e5152, 0xa831c66d, 0xb00327c8, 0xbf597fc7, 0xc6e00bf3, 0xd5a79147, 0x06ca6351, 0x14292967,
   0x27b70a85, 0x2e1b2138, 0x4d2c6dfc, 0x53380d13, 0x650a7354, 0x766a0abb, 0x81c2c92e, 0x92722c85,
   0xa2bfe8a1, 0xa81a664b, 0xc24b8b70, 0xc76c51a3, 0xd192e819, 0xd6990624, 0xf40e3585, 0x106aa070,
   0x19a4c116, 0x1e376c08, 0x2748774c, 0x34b0bcb5, 0x391c0cb3, 0x4ed8aa4a, 0x5b9cca4f, 0x682e6ff3,
   0x748f82ee, 0x78a5636f, 0x84c87814, 0x8cc70208, 0x90befffa, 0xa4506ceb, 0xbef9a3f7, 0xc67178f2]

/-- The eight chaining words. -/
structure Chaining where
  a : UInt32
  b : UInt32
  c : UInt32
  d : UInt32
  e : UInt32
  f : UInt32
  g : UInt32
  h : UInt32
  deriving DecidableEq

/-- The chaining words before the first block: the first 32 bits of the fractional
parts of the square roots of the first eight primes. -/
def Chaining.start : Chaining where
  a := 0x6a09e667
  b := 0xbb67ae85
  c := 0x3c6ef372
  d := 0xa54ff53a
  e := 0x510e527f
  f := 0x9b05688c
  g := 0x1f83d9ab
  h := 0x5be0cd19

/-- Wordwise sum, modulo 2 ^ 32. -/
def Chaining.add (x y : Chaining) : Chaining where
  a := x.a + y.a
  b := x.b + y.b
  c := x.c + y.c
  d := x.d + y.d
  e := x.e + y.e
  f := x.f + y.f
  g := x.g + y.g
  h := x.h + y.h

/-- One round, with the round's constant and its word of the schedule. -/
def Chaining.round (s : Chaining) (k w : UInt32) : Chaining :=
  let sum1 := rotateRight s.e 6 ^^^ rotateRight s.e 11 ^^^ rotateRight s.e 25
  let choice := (s.e &&& s.f) ^^^ (~~~s.e &&& s.g)
  let t1 := s.h + sum1 + choice + k + w
  let sum0 := rotateRight s.a 2 ^^^ rotateRight s.a 13 ^^^ rotateRight s.a 22
  let majority := (s.a &&& s.b) ^^^ (s.a &&& s.c) ^^^ (s.b &&& s.c)
  { a := t1 + (sum0 + majority), b := s.a, c := s.b, d := s.c
    e := s.d + t1, f := s.e, g := s.f, h := s.g }

/-- The bytes of a word, most significant first. -/
def wordBytes (w : UInt32) : List UInt8 :=
  [(w >>> 24).toUInt8, (w >>> 16).toUInt8, (w >>> 8).toUInt8, w.toUInt8]

/-- The chaining words as 32 bytes. -/
def Chaining.toBytes (s : Chaining) : List UInt8 :=
  wordBytes s.a ++ wordBytes s.b ++ wordBytes s.c ++ wordBytes s.d ++
    wordBytes s.e ++ wordBytes s.f ++ wordBytes s.g ++ wordBytes s.h

/-- The schedule word that follows the last sixteen, which are given oldest first. -/
def scheduleNext (recent : List UInt32) : UInt32 :=
  let x := recent.getD 1 0
  let y := recent.getD 14 0
  let sigma0 := rotateRight x 7 ^^^ rotateRight x 18 ^^^ (x >>> 3)
  let sigma1 := rotateRight y 17 ^^^ rotateRight y 19 ^^^ (y >>> 10)
  sigma1 + recent.getD 9 0 + sigma0 + recent.getD 0 0

/-- The next `n` words of the schedule whose next sixteen words are given. -/
def scheduleFrom : Nat → List UInt32 → List UInt32
  | 0, _ => []
  | n + 1, recent => recent.getD 0 0 :: scheduleFrom n (recent.tail ++ [scheduleNext recent])

/-- The sixty-four words of a block of sixteen. -/
def schedule (block : List UInt32) : List UInt32 :=
  scheduleFrom 64 block

/-- Mixes one block into the chaining words. -/
def compress (s : Chaining) (block : List UInt32) : Chaining :=
  s.add ((roundConstants.zip (schedule block)).foldl (fun t kw => t.round kw.1 kw.2) s)

/-- The eight bytes of a message length in bits, most significant first. -/
def lengthBytes (bits : Nat) : List UInt8 :=
  (List.range 8).reverse.map fun i => UInt8.ofNat (bits >>> (8 * i))

/-- The message, a one bit, zeros up to eight bytes below a multiple of 64, and the
message's length in bits. -/
def padded (message : List UInt8) : List UInt8 :=
  message ++ 0x80 :: List.replicate ((119 - message.length % 64) % 64) 0 ++
    lengthBytes (8 * message.length)

/-- Groups bytes into words, most significant byte first; one to three bytes that are
left at the end are dropped. -/
def words : List UInt8 → List UInt32
  | p :: q :: r :: s :: rest =>
    ((p.toUInt32 <<< 24) ||| (q.toUInt32 <<< 16) ||| (r.toUInt32 <<< 8) ||| s.toUInt32) ::
      words rest
  | _ => []

/-- The first `n` blocks of sixteen words. -/
def blocks : Nat → List UInt32 → List (List UInt32)
  | 0, _ => []
  | n + 1, ws => ws.take 16 :: blocks n (ws.drop 16)

/-- The SHA-256 digest of a message. -/
def sha256 (message : List UInt8) : List UInt8 :=
  let ws := words (padded message)
  ((blocks (ws.length / 16) ws).foldl compress .start).toBytes

theorem Chaining.length_toBytes (s : Chaining) : s.toBytes.length = 32 := rfl

@[simp] theorem length_sha256 (message : List UInt8) : (sha256 message).length = 32 :=
  Chaining.length_toBytes _

end TronWallet.Digest
