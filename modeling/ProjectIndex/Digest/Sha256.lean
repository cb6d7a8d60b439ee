/-!
The SHA-256 digest of a byte sequence.

The message is padded with a one bit, zeros, and its bit length as a 64-bit big-endian number, to
a multiple of 64 bytes; each 64-byte block extends to a schedule of 64 words and is compressed
into the eight-word state by 64 rounds. The digest is the final state, big-endian, written as 64
lower-case hexadecimal digits.

Owns: `sha256`, `sha256Hex`.
-/

namespace ProjectIndex.Digest

/-- The round constants: the first 32 bits of the fractional parts of the cube roots of the first
64 primes. -/
def roundConstants : Array UInt32 := #[
  0x428a2f98, 0x71374491, 0xb5c0fbcf, 0xe9b5dba5, 0x3956c25b, 0x59f111f1, 0x923f82a4, 0xab1c5ed5,
  0xd807aa98, 0x12835b01, 0x243185be, 0x550c7dc3, 0x72be5d74, 0x80deb1fe, 0x9bdc06a7, 0xc19bf174,
  0xe49b69c1, 0xefbe4786, 0x0fc19dc6, 0x240ca1cc, 0x2de92c6f, 0x4a7484aa, 0x5cb0a9dc, 0x76f988da,
  0x983e5152, 0xa831c66d, 0xb00327c8, 0xbf597fc7, 0xc6e00bf3, 0xd5a79147, 0x06ca6351, 0x14292967,
  0x27b70a85, 0x2e1b2138, 0x4d2c6dfc, 0x53380d13, 0x650a7354, 0x766a0abb, 0x81c2c92e, 0x92722c85,
  0xa2bfe8a1, 0xa81a664b, 0xc24b8b70, 0xc76c51a3, 0xd192e819, 0xd6990624, 0xf40e3585, 0x106aa070,
  0x19a4c116, 0x1e376c08, 0x2748774c, 0x34b0bcb5, 0x391c0cb3, 0x4ed8aa4a, 0x5b9cca4f, 0x682e6ff3,
  0x748f82ee, 0x78a5636f, 0x84c87814, 0x8cc70208, 0x90befffa, 0xa4506ceb, 0xbef9a3f7, 0xc67178f2]

/-- The initial state: the first 32 bits of the fractional parts of the square roots of the first
eight primes. -/
def initialState : Array UInt32 :=
  #[0x6a09e667, 0xbb67ae85, 0x3c6ef372, 0xa54ff53a, 0x510e527f, 0x9b05688c, 0x1f83d9ab, 0x5be0cd19]

/-- Rotate a word right by `n` bits. -/
def rotr (x : UInt32) (n : UInt32) : UInt32 := (x >>> n) ||| (x <<< (32 - n))

/-- The message padded to a multiple of 64 bytes. -/
def pad (msg : List UInt8) : List UInt8 :=
  let bitLength := msg.length * 8
  let zeros := (64 - (msg.length + 9) % 64) % 64
  msg ++ [0x80] ++ List.replicate zeros 0 ++
    (List.range 8).reverse.map fun i => (bitLength / Nat.pow 2 (8 * i) % 256).toUInt8

/-- The big-endian word of four bytes. -/
def wordOf (bytes : List UInt8) : UInt32 :=
  bytes.foldl (fun acc b => (acc <<< 8) ||| b.toUInt32) 0

/-- The 64-word schedule of a 64-byte block. -/
def schedule (block : List UInt8) : Array UInt32 :=
  let first := (List.range 16).map fun i => wordOf ((block.drop (4 * i)).take 4)
  (List.range 48).foldl (fun (w : Array UInt32) i =>
    let t := i + 16
    let w15 := w[t - 15]!
    let w2 := w[t - 2]!
    let s0 := rotr w15 7 ^^^ rotr w15 18 ^^^ (w15 >>> 3)
    let s1 := rotr w2 17 ^^^ rotr w2 19 ^^^ (w2 >>> 10)
    w.push (w[t - 16]! + s0 + w[t - 7]! + s1)) first.toArray

/-- Compress one block into the state. -/
def compress (state : Array UInt32) (block : List UInt8) : Array UInt32 :=
  let w := schedule block
  let round (v : Array UInt32) (i : Nat) : Array UInt32 :=
    let a := v[0]!; let b := v[1]!; let c := v[2]!; let d := v[3]!
    let e := v[4]!; let f := v[5]!; let g := v[6]!; let h := v[7]!
    let s1 := rotr e 6 ^^^ rotr e 11 ^^^ rotr e 25
    let ch := (e &&& f) ^^^ ((~~~e) &&& g)
    let t1 := h + s1 + ch + roundConstants[i]! + w[i]!
    let s0 := rotr a 2 ^^^ rotr a 13 ^^^ rotr a 22
    let maj := (a &&& b) ^^^ (a &&& c) ^^^ (b &&& c)
    let t2 := s0 + maj
    #[t1 + t2, a, b, c, d + t1, e, f, g]
  let final := (List.range 64).foldl round state
  (List.range 8).toArray.map fun i => state[i]! + final[i]!

/-- The 64-byte blocks of a padded message. -/
def blocks (padded : List UInt8) : List (List UInt8) :=
  (List.range (padded.length / 64)).map fun i => (padded.drop (64 * i)).take 64

/-- The eight words of the SHA-256 digest of a byte sequence. -/
def sha256 (msg : List UInt8) : Array UInt32 :=
  (blocks (pad msg)).foldl compress initialState

/-- Eight lower-case hexadecimal digits of a word. -/
def wordHex (w : UInt32) : String :=
  let ds := Nat.toDigits 16 w.toNat
  String.ofList (List.replicate (8 - ds.length) '0' ++ ds)

/-- The SHA-256 digest of the UTF-8 encoding of a text, as 64 hexadecimal digits. -/
def sha256Hex (text : String) : String :=
  String.join ((sha256 text.toUTF8.toList).toList.map wordHex)

end ProjectIndex.Digest
