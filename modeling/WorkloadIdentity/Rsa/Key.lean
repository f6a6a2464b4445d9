import WorkloadIdentity.Arithmetic.Modular
import WorkloadIdentity.Bytes

/-!
# RSA keys

Public keys and two-prime private keys with the conditions under which they are accepted.  The
conditions tie the exponents to the factors; they say nothing about primality, nor about the
size of the private exponent.
-/

namespace WorkloadIdentity
namespace Rsa

/-- A modulus and a public exponent. -/
structure PublicKey where
  modulus : Nat
  exponent : Nat
  deriving DecidableEq, Repr

namespace PublicKey

def bits (key : PublicKey) : Nat :=
  if key.modulus = 0 then 0 else Nat.log2 key.modulus + 1

/-- The number of bytes of the modulus, which is that of a signature. -/
def size (key : PublicKey) : Nat :=
  (key.bits + 7) / 8

/-- Modulus and exponent are odd, and the exponent is below the modulus and `2 ^ 33`. -/
def Sound (key : PublicKey) : Prop :=
  key.modulus % 2 = 1 ∧ key.exponent % 2 = 1 ∧ key.exponent < key.modulus
    ∧ 2 ≤ key.exponent ∧ key.exponent < 8589934592

instance (key : PublicKey) : Decidable key.Sound := by
  unfold Sound
  infer_instance

/-- The largest modulus that is published. -/
def maxBits : Nat := 4096

/-- A sound key whose modulus is small enough to be published. -/
def Publishable (key : PublicKey) : Prop :=
  key.Sound ∧ key.bits ≤ maxBits

instance (key : PublicKey) : Decidable key.Publishable := by
  unfold Publishable
  infer_instance

end PublicKey

/-- The numbers of a private key. -/
structure PrivateKey where
  modulus : Nat
  exponent : Nat
  privateExponent : Nat
  prime1 : Nat
  prime2 : Nat
  deriving DecidableEq, Repr

namespace PrivateKey

/-- The public key that belongs to a private key. -/
def publicKey (key : PrivateKey) : PublicKey :=
  ⟨key.modulus, key.exponent⟩

/-- The public half is sound, the factors make up the modulus, and the exponents are inverse to
each other modulo each factor less one. -/
def Consistent (key : PrivateKey) : Prop :=
  key.publicKey.Sound ∧ 1 < key.prime1 ∧ 1 < key.prime2
    ∧ key.prime1 * key.prime2 = key.modulus
    ∧ key.privateExponent * key.exponent % (key.prime1 - 1) = 1 % (key.prime1 - 1)
    ∧ key.privateExponent * key.exponent % (key.prime2 - 1) = 1 % (key.prime2 - 1)

instance (key : PrivateKey) : Decidable key.Consistent := by
  unfold Consistent
  infer_instance

/-- The inverse of the second factor modulo the first, which exists when they are coprime. -/
def coefficient? (key : PrivateKey) : Option Nat :=
  Modular.inverse? key.prime1 key.prime2

/-- A number raised to the private exponent, factor by factor where the coefficient exists. -/
def raise (key : PrivateKey) (n : Nat) : Nat :=
  match key.coefficient? with
  | none => Modular.pow key.modulus n key.privateExponent
  | some coefficient =>
      let a := Modular.pow key.prime1 n (key.privateExponent % (key.prime1 - 1))
      let b := Modular.pow key.prime2 n (key.privateExponent % (key.prime2 - 1))
      let quotient := coefficient * Modular.sub key.prime1 a b % key.prime1
      quotient * key.prime2 + b

end PrivateKey
end Rsa
end WorkloadIdentity
