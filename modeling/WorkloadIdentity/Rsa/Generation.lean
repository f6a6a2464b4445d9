import WorkloadIdentity.Entropy
import WorkloadIdentity.Rsa.Key

/-!
# Generation of RSA keys

Probable primes from random bytes, and keys made of two of them.  A key that is returned has been
checked for consistency; the search gives up after a fixed number of tries.
-/

namespace WorkloadIdentity
namespace Rsa

/-- The number as an odd number times a power of two. -/
def oddPart (n : Nat) : Nat × Nat :=
  if n = 0 ∨ n % 2 = 1 then (n, 0)
  else
    let (odd, twos) := oddPart (n / 2)
    (odd, twos + 1)
termination_by n
decreasing_by omega

/-- The residue or one of its first `count` squares is minus one. -/
def reachesMinusOne (n : Nat) : (count residue : Nat) → Bool
  | 0, residue => residue == n - 1
  | count + 1, residue => residue == n - 1 || reachesMinusOne n count (residue * residue % n)

/-- The number passes the strong primality test to a base. -/
def passes (n base : Nat) : Bool :=
  let (odd, twos) := oddPart (n - 1)
  let residue := Modular.pow n base odd
  residue == 1 || reachesMinusOne n (twos - 1) residue

/-- The odd primes below a hundred, to rule out most candidates at once. -/
def smallPrimes : List Nat :=
  [3, 5, 7, 11, 13, 17, 19, 23, 29, 31, 37, 41, 43, 47, 53, 59, 61, 67, 71, 73, 79, 83, 89, 97]

/-- A large odd number that no test shows to be composite. -/
def isProbablePrime (n : Nat) : Bool :=
  smallPrimes.all (fun p => n % p != 0) && (2 :: smallPrimes).all (passes n)

/-- The first of `tries` odd numbers from `start` on that is probably prime and fits the public
exponent. -/
def primeFrom? (exponent : Nat) : (tries start : Nat) → Option Nat
  | 0, _ => none
  | tries + 1, start =>
      if (start - 1) % exponent != 0 && isProbablePrime start then some start
      else primeFrom? exponent tries (start + 2)

def publicExponent : Nat := 65537

/-- The odd number of exactly `bits` bits, its two highest bits set, that random bytes spell. -/
def candidate (bits : Nat) (bytes : Bytes) : Nat :=
  let half := Nat.pow 2 (bits - 2)
  let low := Bytes.toNat bytes % half
  3 * half + low / 2 * 2 + 1

/-- A key with the given factors, if they make a consistent one of exactly `bits` bits. -/
def ofPrimes? (bits p q : Nat) : Option PrivateKey := do
  let d ← Modular.inverse? ((p - 1) * (q - 1)) publicExponent
  let key : PrivateKey := ⟨p * q, publicExponent, d, p, q⟩
  if key.Consistent ∧ key.publicKey.bits = bits ∧ p ≠ q then some key else none

/-- A fresh key with a modulus of `bits` bits, within a number of tries. -/
def generate? (bits : Nat) : (tries : Nat) → Random (Option PrivateKey)
  | 0 => return none
  | tries + 1 => do
      let half := bits / 2
      let first ← Random.bytes (half / 8)
      let second ← Random.bytes (half / 8)
      let key := do
        let p ← primeFrom? publicExponent (16 * half) (candidate half first)
        let q ← primeFrom? publicExponent (16 * half) (candidate half second)
        ofPrimes? bits p q
      match key with
      | some key => return some key
      | none => generate? bits tries

end Rsa
end WorkloadIdentity
