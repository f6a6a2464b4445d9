import WorkloadIdentity.Algorithm
import WorkloadIdentity.Bytes

/-!
# The SHA-2 hash functions

SHA-256 on 32-bit words, SHA-384 and SHA-512 on 64-bit words.  The constants of the smaller
function are the upper halves of those of the larger one.
-/

namespace WorkloadIdentity
namespace Sha2

/-- The round constants: the fractional parts of the cube roots of the first eighty primes. -/
def roundConstants : List UInt64 :=
  [
    0x428a2f98d728ae22, 0x7137449123ef65cd, 0xb5c0fbcfec4d3b2f, 0xe9b5dba58189dbbc,
    0x3956c25bf348b538, 0x59f111f1b605d019, 0x923f82a4af194f9b, 0xab1c5ed5da6d8118,
    0xd807aa98a3030242, 0x12835b0145706fbe, 0x243185be4ee4b28c, 0x550c7dc3d5ffb4e2,
    0x72be5d74f27b896f, 0x80deb1fe3b1696b1, 0x9bdc06a725c71235, 0xc19bf174cf692694,
    0xe49b69c19ef14ad2, 0xefbe4786384f25e3, 0x0fc19dc68b8cd5b5, 0x240ca1cc77ac9c65,
    0x2de92c6f592b0275, 0x4a7484aa6ea6e483, 0x5cb0a9dcbd41fbd4, 0x76f988da831153b5,
    0x983e5152ee66dfab, 0xa831c66d2db43210, 0xb00327c898fb213f, 0xbf597fc7beef0ee4,
    0xc6e00bf33da88fc2, 0xd5a79147930aa725, 0x06ca6351e003826f, 0x142929670a0e6e70,
    0x27b70a8546d22ffc, 0x2e1b21385c26c926, 0x4d2c6dfc5ac42aed, 0x53380d139d95b3df,
    0x650a73548baf63de, 0x766a0abb3c77b2a8, 0x81c2c92e47edaee6, 0x92722c851482353b,
    0xa2bfe8a14cf10364, 0xa81a664bbc423001, 0xc24b8b70d0f89791, 0xc76c51a30654be30,
    0xd192e819d6ef5218, 0xd69906245565a910, 0xf40e35855771202a, 0x106aa07032bbd1b8,
    0x19a4c116b8d2d0c8, 0x1e376c085141ab53, 0x2748774cdf8eeb99, 0x34b0bcb5e19b48a8,
    0x391c0cb3c5c95a63, 0x4ed8aa4ae3418acb, 0x5b9cca4f7763e373, 0x682e6ff3d6b2b8a3,
    0x748f82ee5defb2fc, 0x78a5636f43172f60, 0x84c87814a1f0ab72, 0x8cc702081a6439ec,
    0x90befffa23631e28, 0xa4506cebde82bde9, 0xbef9a3f7b2c67915, 0xc67178f2e372532b,
    0xca273eceea26619c, 0xd186b8c721c0c207, 0xeada7dd6cde0eb1e, 0xf57d4f7fee6ed178,
    0x06f067aa72176fba, 0x0a637dc5a2c898a6, 0x113f9804bef90dae, 0x1b710b35131c471b,
    0x28db77f523047d84, 0x32caab7b40c72493, 0x3c9ebe0a15c9bebc, 0x431d67c49c100d4c,
    0x4cc5d4becb3e42b6, 0x597f299cfc657e2a, 0x5fcb6fab3ad6faec, 0x6c44198c4a475817
  ]

/-- The fractional parts of the square roots of the first eight primes. -/
def initial512 : List UInt64 :=
  [
    0x6a09e667f3bcc908, 0xbb67ae8584caa73b, 0x3c6ef372fe94f82b, 0xa54ff53a5f1d36f1,
    0x510e527fade682d1, 0x9b05688c2b3e6c1f, 0x1f83d9abfb41bd6b, 0x5be0cd19137e2179
  ]

/-- The fractional parts of the square roots of the next eight primes. -/
def initial384 : List UInt64 :=
  [
    0xcbbb9d5dc1059ed8, 0x629a292a367cd507, 0x9159015a3070dd17, 0x152fecd8f70e5939,
    0x67332667ffc00b31, 0x8eb44a8768581511, 0xdb0c2e0d64f98fa7, 0x47b5481dbefa4fa4
  ]

/-- The message followed by a one bit, zeros, and its length in bits in `lengthBytes` bytes, so
that the whole is a multiple of `block` bytes long. -/
def pad (block lengthBytes : Nat) (message : Bytes) : Bytes :=
  let used := (message.length + 1 + lengthBytes) % block
  message ++ 0x80 :: List.replicate ((block - used) % block) 0
    ++ Bytes.fixed lengthBytes (message.length * 8)

/-- The eight working variables of a compression. -/
structure Variables (Word : Type) where
  a : Word
  b : Word
  c : Word
  d : Word
  e : Word
  f : Word
  g : Word
  h : Word

namespace Variables

variable {Word : Type}

def toList (v : Variables Word) : List Word :=
  [v.a, v.b, v.c, v.d, v.e, v.f, v.g, v.h]

/-- The variables from the first eight words of a list, with zeros where it is shorter. -/
def ofList [OfNat Word 0] (words : List Word) : Variables Word :=
  ⟨words.getD 0 0, words.getD 1 0, words.getD 2 0, words.getD 3 0,
    words.getD 4 0, words.getD 5 0, words.getD 6 0, words.getD 7 0⟩

def add [Add Word] (v w : Variables Word) : Variables Word :=
  ⟨v.a + w.a, v.b + w.b, v.c + w.c, v.d + w.d, v.e + w.e, v.f + w.f, v.g + w.g, v.h + w.h⟩

/-- One round, given the two mixing functions of the word size. -/
def round [Add Word] [AndOp Word] [XorOp Word] [Complement Word]
    (mixA mixE : Word → Word) (v : Variables Word) (addend : Word) : Variables Word :=
  let t1 := v.h + mixE v.e + ((v.e &&& v.f) ^^^ (~~~v.e &&& v.g)) + addend
  let t2 := mixA v.a + ((v.a &&& v.b) ^^^ (v.a &&& v.c) ^^^ (v.b &&& v.c))
  ⟨t1 + t2, v.a, v.b, v.c, v.d + t1, v.e, v.f, v.g⟩

end Variables

/-- The words of a block extended by the recurrence of the message schedule. -/
def schedule {Word : Type} [Add Word] [OfNat Word 0]
    (spreadFar spreadNear : Word → Word) (count : Nat) (words : Array Word) : Array Word :=
  (List.range count).foldl (fun words i =>
    words.push (spreadNear (words.getD (i + 14) 0) + words.getD (i + 9) 0
      + spreadFar (words.getD (i + 1) 0) + words.getD i 0)) words

/-- A 32-bit word turned right by `n` places, for `n` from 1 to 31. -/
def rotate32 (w n : UInt32) : UInt32 :=
  (w >>> n) ||| (w <<< (32 - n))

def roundConstants32 : List UInt32 :=
  (roundConstants.take 64).map fun (k : UInt64) => (k >>> 32).toUInt32

/-- One block taken into the state of SHA-256. -/
def compress32 (state : Variables UInt32) (block : Bytes) : Variables UInt32 :=
  let words := (Bytes.chunks 4 block).map fun bytes => UInt32.ofNat (Bytes.toNat bytes)
  let expanded := schedule
    (fun w => rotate32 w 7 ^^^ rotate32 w 18 ^^^ (w >>> 3))
    (fun w => rotate32 w 17 ^^^ rotate32 w 19 ^^^ (w >>> 10)) 48 words.toArray
  let addends := List.zipWith (· + ·) roundConstants32 expanded.toList
  let mixed := addends.foldl (Variables.round
    (fun a => rotate32 a 2 ^^^ rotate32 a 13 ^^^ rotate32 a 22)
    (fun e => rotate32 e 6 ^^^ rotate32 e 11 ^^^ rotate32 e 25)) state
  state.add mixed

def sha256 (message : Bytes) : Bytes :=
  let start := Variables.ofList (initial512.map fun (k : UInt64) => (k >>> 32).toUInt32)
  let final := (Bytes.chunks 64 (pad 64 8 message)).foldl compress32 start
  final.toList.flatMap fun w => Bytes.fixed 4 w.toNat

/-- A 64-bit word turned right by `n` places, for `n` from 1 to 63. -/
def rotate64 (w n : UInt64) : UInt64 :=
  (w >>> n) ||| (w <<< (64 - n))

/-- One block taken into the state of SHA-384 or SHA-512. -/
def compress64 (state : Variables UInt64) (block : Bytes) : Variables UInt64 :=
  let words := (Bytes.chunks 8 block).map fun bytes => UInt64.ofNat (Bytes.toNat bytes)
  let expanded := schedule
    (fun w => rotate64 w 1 ^^^ rotate64 w 8 ^^^ (w >>> 7))
    (fun w => rotate64 w 19 ^^^ rotate64 w 61 ^^^ (w >>> 6)) 64 words.toArray
  let addends := List.zipWith (· + ·) roundConstants expanded.toList
  let mixed := addends.foldl (Variables.round
    (fun a => rotate64 a 28 ^^^ rotate64 a 34 ^^^ rotate64 a 39)
    (fun e => rotate64 e 14 ^^^ rotate64 e 18 ^^^ rotate64 e 41)) state
  state.add mixed

/-- The final state of SHA-384 or SHA-512 as bytes. -/
def digest64 (start : List UInt64) (message : Bytes) : Bytes :=
  let final := (Bytes.chunks 128 (pad 128 16 message)).foldl compress64 (Variables.ofList start)
  final.toList.flatMap fun w => Bytes.fixed 8 w.toNat

def sha384 (message : Bytes) : Bytes :=
  (digest64 initial384 message).take 48

def sha512 (message : Bytes) : Bytes :=
  digest64 initial512 message

end Sha2

namespace Digest

def hash : Digest → Bytes → Bytes
  | sha256 => Sha2.sha256
  | sha384 => Sha2.sha384
  | sha512 => Sha2.sha512

/-- The number of bytes of a hash. -/
def size : Digest → Nat
  | sha256 => 32
  | sha384 => 48
  | sha512 => 64

/-- The number of bytes that are hashed at a time. -/
def blockSize : Digest → Nat
  | sha256 => 64
  | sha384 | sha512 => 128

/-- The keyed hash of a message (HMAC). -/
def keyed (digest : Digest) (key message : Bytes) : Bytes :=
  let short := if key.length ≤ digest.blockSize then key else digest.hash key
  let full := short ++ List.replicate (digest.blockSize - short.length) 0
  let inner := digest.hash (full.map (· ^^^ 0x36) ++ message)
  digest.hash (full.map (· ^^^ 0x5c) ++ inner)

end Digest
end WorkloadIdentity
