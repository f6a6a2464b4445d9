import Mathlib.Data.Nat.ModEq
import WorkloadIdentity.Key.Pair

/-!
# Signatures solve the equations of their schemes

A signature on a curve is made of two numbers of the width of the curve, which solve the equation
of ECDSA for the key's own number, the hash of the message and a secret number.  An RSA signature
has the size of the modulus and leads back to the padded hash under the public key.  Nothing else
comes out of signing.

* `Elliptic.solves_of_sign?`: what a signature on a curve is.
* `KeyPair.signed_of_sign`: what a signature of a key pair is.
-/

namespace WorkloadIdentity

namespace Elliptic

variable {curve : Curve} {digest : Digest} {key : PrivateKey curve} {hash signature : Bytes}

/-- The bytes are two numbers side by side: the first coordinate of the point of a secret number,
and a solution of the equation of ECDSA for that point, the hash and the key. -/
inductive Solves
    (curve : Curve)
    (key : PrivateKey curve)
    (hash : Bytes) : Bytes → Prop
  | solve {secret r s : Nat} {point : Point}
      (hsecret : 0 < secret ∧ secret < curve.order)
      (hpoint : base? curve secret = some point)
      (hr : r = point.x % curve.order)
      (hs : s * secret ≡ truncate curve hash + r * key.scalar [MOD curve.order])
      (hrange : 0 < r ∧ 0 < s ∧ s < curve.order) :
      Solves curve key hash (Bytes.fixed curve.width r ++ Bytes.fixed curve.width s)

theorem Solves.length_eq
    (h : Solves curve key hash signature) :
    signature.length = 2 * curve.width := by
  cases h
  rw [List.length_append, Bytes.length_fixed, Bytes.length_fixed, Nat.two_mul]

/-- Dividing by the secret number solves the equation. -/
theorem mul_inverse_modEq
    {modulus secret inverse value : Nat}
    (h : Modular.inverse? modulus secret = some inverse) :
    inverse * value % modulus * secret ≡ value [MOD modulus] := by
  have hone : secret * inverse ≡ 1 [MOD modulus] := Modular.mul_inverse? h
  calc inverse * value % modulus * secret
      ≡ inverse * value * secret [MOD modulus] := (Nat.mod_modEq _ _).mul_right secret
    _ = secret * inverse * value := by rw [Nat.mul_right_comm, Nat.mul_comm inverse secret]
    _ ≡ 1 * value [MOD modulus] := hone.mul_right value
    _ = value := Nat.one_mul value

theorem solves_of_signWith?
    {secret : Nat}
    (hsecret : 0 < secret ∧ secret < curve.order)
    (h : signWith? curve key hash secret = some signature) :
    Solves curve key hash signature := by
  simp only [signWith?, Option.bind_eq_bind, Option.bind_eq_some_iff] at h
  obtain ⟨point, hpoint, inverse, hinverse, h⟩ := h
  split at h
  · cases h
  · next hzero =>
    obtain ⟨hr, hs⟩ := not_or.mp hzero
    cases h
    have horder : 0 < curve.order := by omega
    exact .solve hsecret hpoint rfl (mul_inverse_modEq hinverse)
      ⟨Nat.pos_of_ne_zero hr, Nat.pos_of_ne_zero hs, Nat.mod_lt _ horder⟩

/-- Whichever secret number succeeds, its signature solves the equation. -/
theorem solves_of_signFrom?
    {tries : Nat} {generator : Generator}
    (h : signFrom? curve digest key hash tries generator = some signature) :
    Solves curve key hash signature := by
  induction tries generalizing generator with
  | zero => cases h
  | succ tries ih =>
      rw [signFrom?] at h
      simp only at h
      split at h
      · next found hfound =>
        cases h
        split at hfound
        · next hrange => exact solves_of_signWith? hrange hfound
        · cases hfound
      · exact ih h

/-- A signature of a message solves the equation for the message's hash. -/
theorem solves_of_sign?
    {message fresh : Bytes}
    (h : sign? curve digest key message fresh = some signature) :
    Solves curve key (digest.hash message) signature :=
  solves_of_signFrom? h

end Elliptic

namespace KeyPair

variable {pair : KeyPair} {message fresh signature : Bytes}

/-- The bytes are a signature of the message in the scheme of the pair's algorithm, made with the
private key of the pair. -/
inductive Signed
    (pair : KeyPair)
    (message : Bytes) : Bytes → Prop
  | rsa {key : Rsa.PrivateKey} {consistent : key.Consistent}
      {publishable : key.publicKey.Publishable} {signature : Bytes}
      (hmaterial : pair.material = .rsa key consistent publishable)
      (hverifies : Rsa.verify pair.algorithm.digest key.publicKey message signature = true) :
      Signed pair message signature
  | ec {curve : Curve} {key : Elliptic.PrivateKey curve} {signature : Bytes}
      (hmaterial : pair.material = .ec curve key)
      (hsolves : Elliptic.Solves curve key (pair.algorithm.digest.hash message) signature) :
      Signed pair message signature

/-- What a key pair gives out as a signature is one. -/
theorem signed_of_sign
    (h : pair.sign message fresh = .ok signature) :
    pair.Signed message signature := by
  unfold sign at h
  split at h
  · next key consistent publishable hmaterial =>
    cases hsign : Rsa.sign pair.algorithm.digest key message with
    | error fault =>
        rw [hsign] at h
        cases h
    | ok found =>
        rw [hsign] at h
        cases h
        exact .rsa hmaterial (Rsa.verify_of_sign hsign)
  · next curve key hmaterial =>
    split at h
    · cases h
    · next found hsign =>
      cases h
      exact .ec hmaterial (Elliptic.solves_of_sign? hsign)

end KeyPair

/-- The number of bytes of a signature with an algorithm, under a public key of its kind: those of
two numbers of the curve, or those of the modulus. -/
def Algorithm.signatureSize? (algorithm : Algorithm) (key : PublicKey) : Option Nat :=
  match algorithm, key with
  | .es256, .ec .p256 _ => some 64
  | .es384, .ec .p384 _ => some 96
  | .es512, .ec .p521 _ => some 132
  | .rs256, .rsa key | .rs384, .rsa key | .rs512, .rsa key => some key.size
  | _, _ => none

namespace KeyPair

variable {pair : KeyPair} {message signature : Bytes}

theorem length_of_verify
    {digest : Digest} {key : Rsa.PublicKey}
    (h : Rsa.verify digest key message signature = true) :
    signature.length = key.size := by
  unfold Rsa.verify at h
  split at h
  · cases h
  · rw [Bool.and_eq_true, beq_iff_eq] at h
    exact h.1

/-- A signature has the size that its algorithm and its key ask for. -/
theorem Signed.size_eq
    (h : pair.Signed message signature) :
    pair.algorithm.signatureSize? pair.publicKey = some signature.length := by
  obtain ⟨algorithm, material, fits⟩ := pair
  cases h with
  | rsa hmaterial hverifies =>
      cases hmaterial
      rw [length_of_verify hverifies]
      rcases Algorithm.kind_eq_rsa_iff.mp fits.symm with rfl | rfl | rfl <;> rfl
  | @ec curve key _ hmaterial hsolves =>
      cases hmaterial
      rw [hsolves.length_eq]
      obtain rfl := Algorithm.kind_eq_ec_iff.mp fits.symm
      cases curve <;> rfl

/-- A signature is not empty. -/
theorem Signed.ne_nil
    (h : pair.Signed message signature) :
    signature ≠ [] := by
  rw [← List.length_pos_iff]
  cases h with
  | @rsa key consistent publishable _ hmaterial hverifies =>
      have hlength := length_of_verify hverifies
      have hmodulus : key.publicKey.modulus ≠ 0 := by
        have hexponent := publishable.1.2.2.1
        omega
      rw [hlength, Rsa.PublicKey.size, Rsa.PublicKey.bits, if_neg hmodulus]
      omega
  | @ec curve key _ hmaterial hsolves =>
      rw [hsolves.length_eq]
      cases curve <;> decide

end KeyPair
end WorkloadIdentity
