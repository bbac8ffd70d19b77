/-!
# SHA-256

The SHA-256 digest of a byte string (FIPS 180-4): the message is padded with a one
bit, zeros and its bit length to a multiple of 64 bytes, and each 64-byte block is
mixed into eight 32-bit words by 64 rounds. The digest is written as 64 lower-case hex
digits.

* `sha256` gives the eight words, `sha256Hex` their hex text; the message is read as a
  byte array, block by block.
-/

namespace AddonCatalog.Digest

/-- The round constants: the first 32 bits of the fractional parts of the cube roots of
the first 64 primes. -/
def roundConstants : Array UInt32 := #[
  0x428a2f98, 0x71374491, 0xb5c0fbcf, 0xe9b5dba5, 0x3956c25b, 0x59f111f1, 0x923f82a4, 0xab1c5ed5,
  0xd807aa98, 0x12835b01, 0x243185be, 0x550c7dc3, 0x72be5d74, 0x80deb1fe, 0x9bdc06a7, 0xc19bf174,
  0xe49b69c1, 0xefbe4786, 0x0fc19dc6, 0x240ca1cc, 0x2de92c6f, 0x4a7484aa, 0x5cb0a9dc, 0x76f988da,
  0x983e5152, 0xa831c66d, 0xb00327c8, 0xbf597fc7, 0xc6e00bf3, 0xd5a79147, 0x06ca6351, 0x14292967,
  0x27b70a85, 0x2e1b2138, 0x4d2c6dfc, 0x53380d13, 0x650a7354, 0x766a0abb, 0x81c2c92e, 0x92722c85,
  0xa2bfe8a1, 0xa81a664b, 0xc24b8b70, 0xc76c51a3, 0xd192e819, 0xd6990624, 0xf40e3585, 0x106aa070,
  0x19a4c116, 0x1e376c08, 0x2748774c, 0x34b0bcb5, 0x391c0cb3, 0x4ed8aa4a, 0x5b9cca4f, 0x682e6ff3,
  0x748f82ee, 0x78a5636f, 0x84c87814, 0x8cc70208, 0x90befffa, 0xa4506ceb, 0xbef9a3f7, 0xc67178f2]

/-- Rotation of a word to the right by `n` bits, `0 < n < 32`. -/
def rotr (x : UInt32) (n : UInt32) : UInt32 := (x >>> n) ||| (x <<< (32 - n))

/-- The word at index `i`, zero out of range. -/
def wordAt (a : Array UInt32) (i : Nat) : UInt32 := a[i]?.getD 0

/-- The byte at index `i`, zero out of range. -/
def byteAt (a : ByteArray) (i : Nat) : UInt8 := a[i]?.getD 0

/-- The big-endian word of the four bytes from index `i`. -/
def wordFrom (a : ByteArray) (i : Nat) : UInt32 :=
  ((byteAt a i).toUInt32 <<< 24) ||| ((byteAt a (i + 1)).toUInt32 <<< 16) |||
    ((byteAt a (i + 2)).toUInt32 <<< 8) ||| (byteAt a (i + 3)).toUInt32

/-- Extends the message schedule from `w` (at least 16 words) to 64 words. -/
def schedule (w : Array UInt32) : Nat → Array UInt32
  | 0 => w
  | n + 1 =>
    let t := w.size
    let x := wordAt w (t - 15)
    let y := wordAt w (t - 2)
    let s0 := rotr x 7 ^^^ rotr x 18 ^^^ (x >>> 3)
    let s1 := rotr y 17 ^^^ rotr y 19 ^^^ (y >>> 10)
    schedule (w.push (s1 + wordAt w (t - 7) + s0 + wordAt w (t - 16))) n

/-- The eight working words of the compression function. -/
structure State where
  a : UInt32
  b : UInt32
  c : UInt32
  d : UInt32
  e : UInt32
  f : UInt32
  g : UInt32
  h : UInt32

/-- The initial state: the first 32 bits of the fractional parts of the square roots of
the first 8 primes. -/
def State.initial : State :=
  ⟨0x6a09e667, 0xbb67ae85, 0x3c6ef372, 0xa54ff53a, 0x510e527f, 0x9b05688c, 0x1f83d9ab, 0x5be0cd19⟩

/-- The words of a state, in order. -/
def State.words (s : State) : List UInt32 := [s.a, s.b, s.c, s.d, s.e, s.f, s.g, s.h]

/-- Adds two states word by word. -/
def State.add (s t : State) : State :=
  ⟨s.a + t.a, s.b + t.b, s.c + t.c, s.d + t.d, s.e + t.e, s.f + t.f, s.g + t.g, s.h + t.h⟩

/-- One round of the compression function, with round constant `k` and schedule word `w`. -/
def State.round (v : State) (k w : UInt32) : State :=
  let S1 := rotr v.e 6 ^^^ rotr v.e 11 ^^^ rotr v.e 25
  let ch := (v.e &&& v.f) ^^^ ((~~~v.e) &&& v.g)
  let t1 := v.h + S1 + ch + k + w
  let S0 := rotr v.a 2 ^^^ rotr v.a 13 ^^^ rotr v.a 22
  let maj := (v.a &&& v.b) ^^^ (v.a &&& v.c) ^^^ (v.b &&& v.c)
  ⟨t1 + S0 + maj, v.a, v.b, v.c, v.d + t1, v.e, v.f, v.g⟩

/-- Runs the rounds from round `i` on; `fuel` counts the rounds left. -/
def rounds (w : Array UInt32) : Nat → Nat → State → State
  | 0, _, v => v
  | n + 1, i, v => rounds w n (i + 1) (v.round (wordAt roundConstants i) (wordAt w i))

/-- Mixes the 64-byte block that starts at index `i` into the hash state. -/
def compress (msg : ByteArray) (i : Nat) (h : State) : State :=
  let w := schedule ((List.range 16).toArray.map fun j => wordFrom msg (i + 4 * j)) 48
  h.add (rounds w 64 0 h)

/-- The message padded to a multiple of 64 bytes: a one bit, zeros, and the bit length
as a big-endian 64-bit number. -/
def pad (msg : List UInt8) : ByteArray :=
  let len := msg.length
  let zeros := (119 - len % 64) % 64
  let bits := 8 * len
  let tail := [0x80] ++ List.replicate zeros 0 ++
    (List.range 8).reverse.map fun i => (bits / Nat.pow 2 (8 * i) % 256).toUInt8
  tail.foldl ByteArray.push ⟨msg.toArray⟩

/-- Mixes the blocks from block `k` on; `fuel` counts the blocks left. -/
def compressFrom (msg : ByteArray) : Nat → Nat → State → State
  | 0, _, h => h
  | n + 1, k, h => compressFrom msg n (k + 1) (compress msg (64 * k) h)

/-- The eight words of the SHA-256 digest. -/
def sha256 (msg : List UInt8) : List UInt32 :=
  let p := pad msg
  (compressFrom p (p.size / 64) 0 State.initial).words

/-- The SHA-256 digest as 64 lower-case hex digits. -/
def sha256Hex (msg : List UInt8) : String :=
  String.join ((sha256 msg).map fun w =>
    let ds := Nat.toDigits 16 w.toNat
    String.ofList (List.replicate (8 - ds.length) '0' ++ ds))

end AddonCatalog.Digest
