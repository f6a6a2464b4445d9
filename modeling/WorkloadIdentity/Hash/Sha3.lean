import WorkloadIdentity.Bytes

/-!
# SHA3-256

The sponge over the permutation Keccak-f[1600], with blocks of 136 bytes.  The state is an array
of 25 words, the word of column `x` and row `y` at `x + 5 * y`.
-/

namespace WorkloadIdentity
namespace Sha3

def roundConstants : List UInt64 :=
  [
    0x0000000000000001, 0x0000000000008082, 0x800000000000808a, 0x8000000080008000,
    0x000000000000808b, 0x0000000080000001, 0x8000000080008081, 0x8000000000008009,
    0x000000000000008a, 0x0000000000000088, 0x0000000080008009, 0x000000008000000a,
    0x000000008000808b, 0x800000000000008b, 0x8000000000008089, 0x8000000000008003,
    0x8000000000008002, 0x8000000000000080, 0x000000000000800a, 0x800000008000000a,
    0x8000000080008081, 0x8000000000008080, 0x0000000080000001, 0x8000000080008008
  ]

/-- The word of the state at column `x` and row `y`, both taken modulo five. -/
def lane (state : Array UInt64) (x y : Nat) : UInt64 :=
  state.getD (x % 5 + 5 * (y % 5)) 0

/-- The state whose word at column `x` and row `y` is `word x y`. -/
def build (word : Nat → Nat → UInt64) : Array UInt64 :=
  ((List.range 25).map fun i => word (i % 5) (i / 5)).toArray

def rotate (w : UInt64) (n : Nat) : UInt64 :=
  if n % 64 = 0 then w
  else (w <<< UInt64.ofNat (n % 64)) ||| (w >>> UInt64.ofNat (64 - n % 64))

/-- The parity of a column. -/
def parity (state : Array UInt64) (x : Nat) : UInt64 :=
  lane state x 0 ^^^ lane state x 1 ^^^ lane state x 2 ^^^ lane state x 3 ^^^ lane state x 4

/-- Each word has the parities of two neighbouring columns added. -/
def theta (state : Array UInt64) : Array UInt64 :=
  let parities := ((List.range 5).map (parity state)).toArray
  let mix := fun x => parities.getD ((x + 4) % 5) 0 ^^^ rotate (parities.getD ((x + 1) % 5) 0) 1
  build fun x y => lane state x y ^^^ mix x

/-- The rotations of the words by position. -/
def offsets : Array Nat :=
  #[0, 1, 62, 28, 27,
    36, 44, 6, 55, 20,
    3, 10, 43, 25, 39,
    41, 45, 15, 21, 8,
    18, 2, 61, 56, 14]

/-- The words turned, and moved to their new places. -/
def rhoPi (state : Array UInt64) : Array UInt64 :=
  build fun x y =>
    let column := (x + 3 * y) % 5
    rotate (lane state column x) (offsets.getD (column + 5 * x) 0)

/-- The non-linear step along the rows. -/
def chi (state : Array UInt64) : Array UInt64 :=
  build fun x y => lane state x y ^^^ (~~~lane state (x + 1) y &&& lane state (x + 2) y)

def round (state : Array UInt64) (constant : UInt64) : Array UInt64 :=
  let mixed := chi (rhoPi (theta state))
  mixed.modify 0 (· ^^^ constant)

def permute (state : Array UInt64) : Array UInt64 :=
  roundConstants.foldl round state

/-- The number that a byte string spells, least significant byte first. -/
def littleEndian (bytes : Bytes) : UInt64 :=
  bytes.foldr (fun byte total => (total <<< 8) ||| byte.toUInt64) 0

/-- The eight bytes of a word, least significant byte first. -/
def wordBytes (w : UInt64) : Bytes :=
  (List.range 8).map fun i => (w >>> UInt64.ofNat (8 * i)).toUInt8

def absorb (state : Array UInt64) (block : Bytes) : Array UInt64 :=
  let words := ((Bytes.chunks 8 block).map littleEndian).toArray
  permute (build fun x y => lane state x y ^^^ words.getD (x + 5 * y) 0)

/-- The message with the padding of the hash function, in blocks of 136 bytes. -/
def pad (message : Bytes) : Bytes :=
  let missing := 136 - message.length % 136
  if missing = 1 then message ++ [0x86]
  else message ++ 0x06 :: List.replicate (missing - 2) 0 ++ [0x80]

def sha256 (message : Bytes) : Bytes :=
  let final := (Bytes.chunks 136 (pad message)).foldl absorb (Array.replicate 25 0)
  (final.toList.take 4).flatMap wordBytes

end Sha3
end WorkloadIdentity
