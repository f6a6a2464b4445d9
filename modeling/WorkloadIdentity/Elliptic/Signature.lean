import WorkloadIdentity.Elliptic.Point
import WorkloadIdentity.Hash.Sha2

/-!
# Elliptic-curve keys and signatures

Private keys with their public points, and ECDSA signatures as the two numbers `r` and `s` side
by side.  The secret number of a signature is derived from the key, the hash and optional fresh
bytes by the keyed-hash generator of deterministic ECDSA.
-/

namespace WorkloadIdentity
namespace Elliptic

/-- A private key on a curve: a number below the order of the group, with its public point. -/
structure PrivateKey (curve : Curve) where
  /-- The private number. -/
  scalar : Nat
  /-- The public point. -/
  point : Point
  scalar_pos : 0 < scalar
  scalar_lt : scalar < curve.order
  base?_scalar : base? curve scalar = some point
  onCurve : OnCurve curve point

/-- The private key with a given number, if the number is in range. -/
def PrivateKey.ofScalar? (curve : Curve) (scalar : Nat) : Option (PrivateKey curve) :=
  if hrange : 0 < scalar ∧ scalar < curve.order then
    match hbase : base? curve scalar with
    | none => none
    | some point =>
        if honCurve : OnCurve curve point then
          some ⟨scalar, point, hrange.1, hrange.2, hbase, honCurve⟩
        else none
  else none

theorem PrivateKey.scalar_of_ofScalar?
    {curve : Curve} {scalar : Nat} {key : PrivateKey curve}
    (h : PrivateKey.ofScalar? curve scalar = some key) :
    key.scalar = scalar := by
  unfold PrivateKey.ofScalar? at h
  split at h
  · split at h
    · cases h
    · split at h
      · cases h
        rfl
      · cases h
  · cases h

theorem PrivateKey.ofScalar?_scalar
    {curve : Curve} (key : PrivateKey curve) :
    PrivateKey.ofScalar? curve key.scalar = some key := by
  unfold PrivateKey.ofScalar?
  rw [dif_pos ⟨key.scalar_pos, key.scalar_lt⟩]
  split
  · next h => rw [key.base?_scalar] at h; cases h
  · next point h =>
    have hp : point = key.point := by
      rw [key.base?_scalar] at h
      exact (Option.some.inj h).symm
    subst hp
    rw [dif_pos key.onCurve]

/-- The leftmost bits of a hash, as many as the order of the group has. -/
def truncate (curve : Curve) (hash : Bytes) : Nat :=
  let bits := Nat.log2 curve.order + 1
  Bytes.toNat hash >>> (hash.length * 8 - bits)

/-- The signature of a hash with a given secret number. -/
def signWith? (curve : Curve) (key : PrivateKey curve) (hash : Bytes) (secret : Nat) :
    Option Bytes := do
  let n := curve.order
  let point ← base? curve secret
  let inverse ← Modular.inverse? n secret
  let r := point.x % n
  let s := inverse * (truncate curve hash + r * key.scalar) % n
  if r = 0 ∨ s = 0 then none
  else some (Bytes.fixed curve.width r ++ Bytes.fixed curve.width s)

/-- The two byte strings of the generator. -/
structure Generator where
  key : Bytes
  value : Bytes

/-- The generator after some bytes were taken in. -/
def Generator.update (digest : Digest) (g : Generator) (data : Bytes) : Generator :=
  let key := digest.keyed g.key (g.value ++ 0x00 :: data)
  let value := digest.keyed key g.value
  if data = [] then ⟨key, value⟩
  else
    let key := digest.keyed key (value ++ 0x01 :: data)
    ⟨key, digest.keyed key value⟩

/-- The generator that starts from a key, a hash and fresh bytes. -/
def Generator.start (curve : Curve) (digest : Digest) (scalar : Nat) (hash fresh : Bytes) :
    Generator :=
  let seed := Bytes.fixed curve.width scalar
    ++ Bytes.fixed curve.width (truncate curve hash % curve.order) ++ fresh
  Generator.update digest ⟨List.replicate digest.size 0, List.replicate digest.size 1⟩ seed

/-- At least `width` further bytes, and the generator after them. -/
def Generator.draw (digest : Digest) (width : Nat) (g : Generator) : Bytes × Generator :=
  (List.range ((width + digest.size - 1) / digest.size)).foldl (fun (bytes, g) _ =>
    let value := digest.keyed g.key g.value
    (bytes ++ value, { g with value })) ([], g)

/-- The first signature whose secret number the generator gives, within a number of tries. -/
def signFrom? (curve : Curve) (digest : Digest) (key : PrivateKey curve) (hash : Bytes) :
    (tries : Nat) → Generator → Option Bytes
  | 0, _ => none
  | tries + 1, g =>
      let (bytes, g) := g.draw digest curve.width
      let secret := truncate curve bytes
      let signature :=
        if 0 < secret ∧ secret < curve.order then signWith? curve key hash secret else none
      match signature with
      | some signature => some signature
      | none => signFrom? curve digest key hash tries (g.update digest [])

/-- The number of secret numbers that are tried; each fails with negligible probability. -/
def maxTries : Nat := 256

/-- The signature of a message; without fresh bytes it depends on key and message alone. -/
def sign? (curve : Curve) (digest : Digest) (key : PrivateKey curve) (message fresh : Bytes) :
    Option Bytes :=
  let hash := digest.hash message
  signFrom? curve digest key hash maxTries
    (Generator.start curve digest key.scalar hash fresh)

/-- The bytes are a signature of the message under the public point. -/
def verify (curve : Curve) (digest : Digest) (point : Point) (message signature : Bytes) :
    Bool :=
  let n := curve.order
  let r := Bytes.toNat (signature.take curve.width)
  let s := Bytes.toNat (signature.drop curve.width)
  if signature.length = 2 * curve.width ∧ 0 < r ∧ r < n ∧ 0 < s ∧ s < n then
    match Modular.inverse? n s with
    | none => false
    | some w =>
        let fromBase := multiply curve (generator curve)
          (truncate curve (digest.hash message) * w % n)
        let fromKey := affine? curve (multiply curve point (r * w % n))
        let sum := match fromKey with
          | none => affine? curve fromBase
          | some q => affine? curve (add curve fromBase q)
        match sum with
        | none => false
        | some q => q.x % n = r
  else false

end Elliptic
end WorkloadIdentity
