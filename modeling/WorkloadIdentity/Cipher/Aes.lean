import WorkloadIdentity.Bytes

/-!
# The AES-256 block cipher

Encryption of one block of sixteen bytes under a key of thirty-two.  A block is a list of four
columns of four bytes each.  The substitution table is computed from its definition in the field
of 256 elements.
-/

namespace WorkloadIdentity
namespace Aes

/-- A byte times the field's generator `x`, modulo `x ^ 8 + x ^ 4 + x ^ 3 + x + 1`. -/
def double (byte : UInt8) : UInt8 :=
  (byte <<< 1) ^^^ (if byte &&& 0x80 = 0 then 0 else 0x1b)

/-- The product of two field elements, by the eight bits of the second. -/
def multiply (a b : UInt8) : UInt8 :=
  ((List.range 8).foldl (fun (total, power) i =>
    (if (b >>> UInt8.ofNat i) &&& 1 = 0 then total else total ^^^ power, double power))
    ((0 : UInt8), a)).1

/-- The inverse of a field element, as its power 254; zero goes to zero. -/
def invert (byte : UInt8) : UInt8 :=
  let square := fun b => multiply b b
  ((List.range 6).foldl (fun (total, power) _ => (multiply total power, square power))
    (square byte, square (square byte))).1

/-- A byte turned left by `n` places, for `n` from 1 to 7. -/
def rotate (byte n : UInt8) : UInt8 :=
  (byte <<< n) ||| (byte >>> (8 - n))

/-- The substitution of a byte: its inverse under an affine map over the bits. -/
def substitution (byte : UInt8) : UInt8 :=
  let b := invert byte
  b ^^^ rotate b 1 ^^^ rotate b 2 ^^^ rotate b 3 ^^^ rotate b 4 ^^^ 0x63

def substitutions : Array UInt8 :=
  ((List.range 256).map fun i => substitution (UInt8.ofNat i)).toArray

/-- The substitution of a byte, looked up. -/
def substitute (byte : UInt8) : UInt8 :=
  substitutions.getD byte.toNat 0

/-- The column that is added to every eighth word of the key schedule. -/
def roundConstant (round : Nat) : Bytes :=
  [(List.range (round - 1)).foldl (fun byte _ => double byte) 1, 0, 0, 0]

/-- The word of the key schedule after the words already there, newest first. -/
def nextWord (index : Nat) (words : Array Bytes) : Bytes :=
  let before := words.getD (index - 1) []
  let mixed :=
    if index % 8 = 0 then
      Bytes.xor ((before.drop 1 ++ before.take 1).map substitute) (roundConstant (index / 8))
    else if index % 8 = 4 then before.map substitute
    else before
  Bytes.xor (words.getD (index - 8) []) mixed

/-- The fifteen round keys of a key. -/
def roundKeys (key : Bytes) : List Bytes :=
  let words := (List.range 52).foldl (fun words i => words.push (nextWord (i + 8) words))
    (Bytes.chunks 4 key).toArray
  Bytes.chunks 16 words.toList.flatten

/-- The rows of a block turned left by 0, 1, 2 and 3 columns. -/
def shiftRows (block : Bytes) : Bytes :=
  let bytes := block.toArray
  (List.range 16).map fun i => bytes.getD ((i + 4 * (i % 4)) % 16) 0

/-- Each column multiplied by the fixed matrix of the cipher. -/
def mixColumns : Bytes → Bytes
  | a :: b :: c :: d :: rest =>
      let all := a ^^^ b ^^^ c ^^^ d
      (a ^^^ all ^^^ double (a ^^^ b)) :: (b ^^^ all ^^^ double (b ^^^ c))
        :: (c ^^^ all ^^^ double (c ^^^ d)) :: (d ^^^ all ^^^ double (d ^^^ a))
        :: mixColumns rest
  | _ => []

/-- The rounds after the first key has been added; the last one mixes no columns. -/
def rounds (block : Bytes) : List Bytes → Bytes
  | [] => block
  | [key] => Bytes.xor (shiftRows (block.map substitute)) key
  | key :: keys => rounds (Bytes.xor (mixColumns (shiftRows (block.map substitute))) key) keys

/-- One block encrypted under the round keys. -/
def encryptBlock (keys : List Bytes) (block : Bytes) : Bytes :=
  match keys with
  | [] => block
  | key :: keys => rounds (Bytes.xor block key) keys

end Aes
end WorkloadIdentity
