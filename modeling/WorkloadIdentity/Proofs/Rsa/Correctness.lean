import Mathlib.Data.Int.ModEq
import Mathlib.Data.Nat.ChineseRemainder
import Mathlib.FieldTheory.Finite.Basic
import WorkloadIdentity.Proofs.Key.Encodings

/-!
# Raising to the private exponent and back

A number that is raised to the private exponent, factor by factor, and then to the public one comes
back, if the factors are two different primes.  That the factors are coprime is found out by the
extended Euclidean algorithm, which gives an inverse exactly then.

* `Modular.inverse?_isSome_iff`: when there is an inverse.
* `Rsa.PrivateKey.raise_pow_modEq`: the number comes back.
* `Rsa.sign_succeeds_iff`: when a key signs.
-/

namespace WorkloadIdentity

namespace Modular

/-- The Euclidean algorithm gives a multiple that is the greatest common divisor modulo another
number, if both multiples that it starts from are right. -/
theorem mul_euclid_modEq
    {modulus n r s : Nat} {x y : Int}
    (hx : n * x ≡ r [ZMOD modulus])
    (hy : n * y ≡ s [ZMOD modulus]) :
    n * (euclid r s x y).2 ≡ Nat.gcd r s [ZMOD modulus] := by
  fun_induction euclid r s x y with
  | case1 r x y =>
      rw [Nat.gcd_zero_right]
      exact hx
  | case2 r s x y hs ih =>
      -- the next remainder is the same combination of the two multiples
      have hrest : n * (x - (r / s : Nat) * y) ≡ (r % s : Nat) [ZMOD modulus] := by
        have hdivision : (r : Int) = s * (r / s : Nat) + (r % s : Nat) := by
          exact_mod_cast (Nat.div_add_mod r s).symm
        calc (n : Int) * (x - (r / s : Nat) * y)
            = n * x - (r / s : Nat) * (n * y) := by ring
          _ ≡ r - (r / s : Nat) * s [ZMOD modulus] := hx.sub (hy.mul_left _)
          _ = (r % s : Nat) := by
            rw [hdivision]
            ring
      rw [Nat.gcd_comm r s, Nat.gcd_rec s r, Nat.gcd_comm]
      exact ih hy hrest

/-- There is an inverse exactly of the numbers that are coprime to the modulus. -/
theorem inverse?_isSome_iff
    {modulus n : Nat}
    (hmodulus : 0 < modulus) :
    (inverse? modulus n).isSome ↔ n.Coprime modulus := by
  constructor
  · intro h
    obtain ⟨inverse, hinverse⟩ := Option.isSome_iff_exists.mp h
    exact Nat.coprime_of_mul_modEq_one inverse (mul_inverse? hinverse)
  · intro h
    -- the algorithm starts from the multiples one and zero
    have hfirst : (n : Int) * 1 ≡ (n % modulus : Nat) [ZMOD modulus] := by
      rw [mul_one]
      exact Int.natCast_modEq_iff.mpr (Nat.mod_modEq n modulus).symm
    have hsecond : (n : Int) * 0 ≡ modulus [ZMOD modulus] := by
      rw [mul_zero]
      exact (Int.modEq_zero_iff_dvd.mpr dvd_rfl).symm
    have hmultiple := mul_euclid_modEq hfirst hsecond
    rw [← Nat.gcd_rec, Nat.gcd_comm, h.gcd_eq_one] at hmultiple
    have hresidue : (((euclid (n % modulus) modulus 1 0).2.emod modulus).toNat : Int)
        = (euclid (n % modulus) modulus 1 0).2 % modulus :=
      Int.toNat_of_nonneg (Int.emod_nonneg _ (by omega))
    have hone : n * ((euclid (n % modulus) modulus 1 0).2.emod modulus).toNat ≡ 1
        [MOD modulus] := by
      rw [← Int.natCast_modEq_iff]
      push_cast [hresidue]
      exact (Int.ModEq.mul_left _ (Int.mod_modEq _ _)).trans hmultiple
    have hnonzero : ¬ modulus = 0 := by omega
    simp only [inverse?]
    rw [if_neg hnonzero, if_pos (show _ % modulus = 1 % modulus from hone)]
    rfl

theorem inverse?_lt
    {modulus n inverse : Nat}
    (h : inverse? modulus n = some inverse) :
    inverse < modulus := by
  simp only [inverse?] at h
  split at h
  · cases h
  · next hmodulus =>
    split at h
    · cases h
      have hlt := Int.emod_lt_of_pos (euclid (n % modulus) modulus 1 0).2
        (show (0 : Int) < modulus by omega)
      exact (Int.toNat_lt_of_ne_zero hmodulus).mpr hlt
    · cases h

/-- A difference and what was taken away make up the first number. -/
theorem sub_add_modEq
    {modulus : Nat}
    (hmodulus : 0 < modulus)
    (a b : Nat) :
    sub modulus a b + b ≡ a [MOD modulus] := by
  have hlt := Nat.mod_lt b hmodulus
  calc sub modulus a b + b
      ≡ a % modulus + (modulus - b % modulus) + b % modulus [MOD modulus] :=
        (Nat.mod_modEq _ _).add (Nat.mod_modEq _ _).symm
    _ = a % modulus + modulus := by omega
    _ ≡ a % modulus [MOD modulus] := Nat.add_modulus_modEq_iff.mpr rfl
    _ ≡ a [MOD modulus] := Nat.mod_modEq _ _

theorem pow_modEq
    (modulus n exponent : Nat) :
    pow modulus n exponent ≡ n ^ exponent [MOD modulus] := by
  rw [pow_eq]
  exact Nat.mod_modEq _ _

theorem pow_lt
    {modulus : Nat}
    (hmodulus : 0 < modulus)
    (n exponent : Nat) :
    pow modulus n exponent < modulus := by
  rw [pow_eq]
  exact Nat.mod_lt _ hmodulus

/-- Modulo an odd prime every number is its own power for an exponent that is one modulo the prime
less one. -/
theorem pow_modEq_self_of_prime
    {p n k : Nat}
    (hp : p.Prime)
    (hodd : p % 2 = 1)
    (hk : k % (p - 1) = 1 % (p - 1)) :
    n ^ k ≡ n [MOD p] := by
  have htwo := hp.two_le
  have hone : 1 % (p - 1) = 1 := Nat.mod_eq_of_lt (by omega)
  have hsplit : k = (p - 1) * (k / (p - 1)) + 1 := by
    have hdivision := Nat.div_add_mod k (p - 1)
    omega
  -- multiples of the prime have no inverse, but there both sides are zero
  by_cases hn : n.Coprime p
  · have hfermat : n ^ (p - 1) ≡ 1 [MOD p] := by
      rw [← Nat.totient_prime hp]
      exact Nat.ModEq.pow_totient hn
    calc n ^ k = (n ^ (p - 1)) ^ (k / (p - 1)) * n := by
          conv_lhs => rw [hsplit, pow_succ, pow_mul]
      _ ≡ 1 ^ (k / (p - 1)) * n [MOD p] := (hfermat.pow _).mul_right n
      _ = n := by rw [one_pow, one_mul]
  · have hdvd : p ∣ n := by
      by_contra hnot
      exact hn ((hp.coprime_iff_not_dvd.mpr hnot).symm)
    have hzero := Nat.modEq_zero_iff_dvd.mpr hdvd
    have hpower : n ^ k ≡ 0 [MOD p] :=
      Nat.modEq_zero_iff_dvd.mpr (dvd_pow hdvd (by omega))
    exact hpower.trans hzero.symm

end Modular

namespace Rsa

namespace PrivateKey

variable {key : PrivateKey} {n : Nat}

theorem coefficient?_isSome_iff
    (h : key.Consistent) :
    key.coefficient?.isSome ↔ key.prime1.Coprime key.prime2 := by
  have hpos : 0 < key.prime1 := Nat.lt_of_succ_lt h.2.1
  rw [coefficient?, Modular.inverse?_isSome_iff hpos, Nat.coprime_comm]

/-- The result is below the modulus, and modulo each factor it is the power that was computed
there. -/
theorem raise_spec
    (h : key.Consistent)
    (hcoprime : key.prime1.Coprime key.prime2)
    (n : Nat) :
    key.raise n < key.modulus ∧
      key.raise n ≡ n ^ (key.privateExponent % (key.prime1 - 1)) [MOD key.prime1] ∧
      key.raise n ≡ n ^ (key.privateExponent % (key.prime2 - 1)) [MOD key.prime2] := by
  obtain ⟨coefficient, hcoefficient⟩ :=
    Option.isSome_iff_exists.mp ((coefficient?_isSome_iff h).mpr hcoprime)
  obtain ⟨-, hone, htwo, hproduct, -⟩ := h
  have hinverse : key.prime2 * coefficient ≡ 1 [MOD key.prime1] :=
    Modular.mul_inverse? hcoefficient
  have hraise : key.raise n
      = coefficient * Modular.sub key.prime1
          (Modular.pow key.prime1 n (key.privateExponent % (key.prime1 - 1)))
          (Modular.pow key.prime2 n (key.privateExponent % (key.prime2 - 1))) % key.prime1
        * key.prime2 + Modular.pow key.prime2 n (key.privateExponent % (key.prime2 - 1)) := by
    simp only [raise, hcoefficient]
  have hfirst := Modular.pow_modEq key.prime1 n (key.privateExponent % (key.prime1 - 1))
  have hsecond := Modular.pow_modEq key.prime2 n (key.privateExponent % (key.prime2 - 1))
  have hsecondLt := Modular.pow_lt (Nat.lt_of_succ_lt htwo) n
    (key.privateExponent % (key.prime2 - 1))
  generalize Modular.pow key.prime1 n (key.privateExponent % (key.prime1 - 1)) = first
    at hraise hfirst
  generalize Modular.pow key.prime2 n (key.privateExponent % (key.prime2 - 1)) = second
    at hraise hsecond hsecondLt
  have hdifference := Modular.sub_add_modEq (Nat.lt_of_succ_lt hone) first second
  generalize Modular.sub key.prime1 first second = difference at hraise hdifference
  rw [hraise]
  refine ⟨?_, ?_, ?_⟩
  · have hquotient := Nat.mod_lt (coefficient * difference) (Nat.lt_of_succ_lt hone)
    calc coefficient * difference % key.prime1 * key.prime2 + second
        < coefficient * difference % key.prime1 * key.prime2 + key.prime2 := by omega
      _ = (coefficient * difference % key.prime1 + 1) * key.prime2 := by ring
      _ ≤ key.prime1 * key.prime2 := Nat.mul_le_mul_right _ hquotient
      _ = key.modulus := hproduct
  · calc coefficient * difference % key.prime1 * key.prime2 + second
        ≡ coefficient * difference * key.prime2 + second [MOD key.prime1] :=
          ((Nat.mod_modEq _ _).mul_right _).add_right _
      _ = key.prime2 * coefficient * difference + second := by ring
      _ ≡ 1 * difference + second [MOD key.prime1] := (hinverse.mul_right _).add_right _
      _ = difference + second := by rw [one_mul]
      _ ≡ first [MOD key.prime1] := hdifference
      _ ≡ n ^ (key.privateExponent % (key.prime1 - 1)) [MOD key.prime1] := hfirst
  · calc coefficient * difference % key.prime1 * key.prime2 + second
        ≡ second [MOD key.prime2] := by
          rw [Nat.ModEq, Nat.mul_add_mod_self_right]
      _ ≡ n ^ (key.privateExponent % (key.prime2 - 1)) [MOD key.prime2] := hsecond

/-- A factor of an odd modulus is odd. -/
theorem odd_of_mul_eq
    {a b : Nat}
    (h : a * b = key.modulus)
    (hodd : key.modulus % 2 = 1) :
    a % 2 = 1 ∧ b % 2 = 1 := by
  rw [← h, ← Nat.odd_iff, Nat.odd_mul, Nat.odd_iff, Nat.odd_iff] at hodd
  exact hodd

/-- Modulo a prime factor, the power that is computed there comes back. -/
theorem pow_pow_modEq
    {p : Nat}
    (hp : p.Prime)
    (hodd : p % 2 = 1)
    (hinverse : key.privateExponent * key.exponent % (p - 1) = 1 % (p - 1))
    (n : Nat) :
    (n ^ (key.privateExponent % (p - 1))) ^ key.exponent ≡ n [MOD p] := by
  rw [← pow_mul]
  refine Modular.pow_modEq_self_of_prime hp hodd ?_
  rw [Nat.mod_mul_mod, hinverse]

/-- Raising to the private exponent and then to the public one gives the number back, if the
factors are two different primes. -/
theorem raise_pow_modEq
    (h : key.Consistent)
    (hprime1 : key.prime1.Prime)
    (hprime2 : key.prime2.Prime)
    (hne : key.prime1 ≠ key.prime2)
    (n : Nat) :
    key.raise n ^ key.exponent ≡ n [MOD key.modulus] := by
  have hcoprime := (Nat.coprime_primes hprime1 hprime2).mpr hne
  obtain ⟨-, hfirst, hsecond⟩ := raise_spec h hcoprime n
  obtain ⟨hsound, -, -, hproduct, hinverse1, hinverse2⟩ := h
  obtain ⟨hodd1, hodd2⟩ := odd_of_mul_eq hproduct hsound.1
  rw [← hproduct]
  refine (Nat.modEq_and_modEq_iff_modEq_mul hcoprime).mp ⟨?_, ?_⟩
  · exact (hfirst.pow _).trans (pow_pow_modEq hprime1 hodd1 hinverse1 n)
  · exact (hsecond.pow _).trans (pow_pow_modEq hprime2 hodd2 hinverse2 n)

/-- The hash of a message, padded to the size of the modulus, comes back from the private
exponent. -/
def Returns
    (key : PrivateKey)
    (digest : Digest)
    (message : Bytes) : Prop :=
  ∃ block, padded? digest key.publicKey.size message = some block ∧
    key.raise (Bytes.toNat block) ^ key.exponent ≡ Bytes.toNat block [MOD key.modulus]

end PrivateKey

/-- A hash with its name takes at most 83 bytes. -/
theorem length_hashName_append_hash_le
    (digest : Digest) (message : Bytes) :
    (hashName digest ++ digest.hash message).length ≤ 83 := by
  cases digest <;>
    simp [hashName, Digest.hash, Sha2.sha256, Sha2.sha384, Sha2.sha512, Sha2.digest64,
      Sha2.Variables.toList]

/-- Every hash fits into the size of a modulus of 94 bytes. -/
theorem exists_padded
    {size : Nat}
    (h : 94 ≤ size)
    (digest : Digest) (message : Bytes) :
    ∃ block, padded? digest size message = some block := by
  have hlength := length_hashName_append_hash_le digest message
  simp only [padded?]
  rw [if_neg (by omega)]
  exact ⟨_, rfl⟩

variable {key : PrivateKey} {digest : Digest} {message : Bytes}

/-- A key with coprime factors gives a signature exactly if the padded hash comes back. -/
theorem sign_succeeds_iff
    (h : key.Consistent)
    (hcoprime : key.prime1.Coprime key.prime2) :
    (∃ signature, sign digest key message = .ok signature) ↔ key.Returns digest message := by
  cases hblock : padded? digest key.publicKey.size message with
  | none => simp [sign, PrivateKey.Returns, hblock]
  | some block =>
      have hlt := (PrivateKey.raise_spec h hcoprime (Bytes.toNat block)).1
      have hbits : key.publicKey.bits ≤ 8 * key.publicKey.size := by
        simp only [PublicKey.size]
        omega
      have hfits : key.raise (Bytes.toNat block) < Nat.pow 256 key.publicKey.size :=
        hlt.trans (PublicKey.modulus_lt hbits)
      have hverify : verify digest key.publicKey message
          (Bytes.fixed key.publicKey.size (key.raise (Bytes.toNat block))) = true ↔
          key.raise (Bytes.toNat block) ^ key.exponent ≡ Bytes.toNat block [MOD key.modulus] := by
        simp only [verify, hblock, Bytes.length_fixed, Bytes.toNat_fixed hfits, Modular.pow_eq,
          beq_self_eq_true, Bool.true_and, beq_iff_eq]
        rfl
      simp only [sign, PrivateKey.Returns, hblock, Option.some.injEq, exists_eq_left', ← hverify]
      split
      · next hverifies => simp [hverifies]
      · next hfails => simp [hfails]

/-- Where the factors are two different primes, every hash comes back. -/
theorem PrivateKey.returns_of_primes
    (h : key.Consistent)
    (hprime1 : key.prime1.Prime)
    (hprime2 : key.prime2.Prime)
    (hne : key.prime1 ≠ key.prime2)
    (hsize : 94 ≤ key.publicKey.size) :
    key.Returns digest message := by
  obtain ⟨block, hblock⟩ := exists_padded hsize digest message
  exact ⟨block, hblock, raise_pow_modEq h hprime1 hprime2 hne _⟩

end Rsa
end WorkloadIdentity
