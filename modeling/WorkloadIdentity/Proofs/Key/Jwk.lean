import WorkloadIdentity.Proofs.Http.Disclosure
import WorkloadIdentity.Proofs.Key.Pairing
import WorkloadIdentity.Proofs.Metadata.Documents
import WorkloadIdentity.Proofs.Text.Spellings

/-!
# Published keys determine public keys

The numbers of an RSA key are published in as few bytes as they need, the coordinates of a point in
the width of its field, whatever they begin with.  Each has one spelling, so a published key stands
for one public key and one algorithm, and it is read back from its document.

* `Jwk.describes_ofPair`: what is published for a key pair.
* `Jwk.Describes.publicKey_eq`: it is published for no other public key.
* `Jwk.published_determines`: all of this, and the documents of published keys.
-/

namespace WorkloadIdentity

namespace Base64

/-- A text spells a number in base64 for URLs: it is not padded, and its bytes are the number's,
most significant first, with no zero in front. -/
structure SpellsNumber
    (text : String)
    (n : Nat) : Prop where
  unpadded : '=' ∉ text.toList
  decodes : ∃ bytes, decode .urlSafe text = some bytes ∧ bytes.head? ≠ some 0 ∧
    Bytes.toNat bytes = n

/-- A text spells bytes of a width in standard base64, filled up to whole groups. -/
structure SpellsWidth
    (text : String)
    (width : Nat)
    (bytes : Bytes) : Prop where
  padded : 4 ∣ text.length
  decodes : decode .standard text = some bytes
  length_eq : bytes.length = width

theorem spellsNumber_encode
    {n : Nat}
    (h : 0 < n) :
    SpellsNumber (encode .urlSafe (Bytes.ofNat n)) n where
  unpadded := fill_notMem_encode_urlSafe _
  decodes := ⟨_, decode_encode _ _, Bytes.head?_ofNat_ne_zero h, Bytes.toNat_ofNat n⟩

theorem spellsWidth_encode
    (width n : Nat) :
    SpellsWidth (encode .standard (Bytes.fixed width n)) width (Bytes.fixed width n) where
  padded := four_dvd_length_encode_standard _
  decodes := decode_encode _ _
  length_eq := Bytes.length_fixed width n

theorem SpellsNumber.unique
    {text : String} {n m : Nat}
    (h : SpellsNumber text n)
    (hother : SpellsNumber text m) :
    n = m := by
  obtain ⟨bytes, hbytes, -, rfl⟩ := h.decodes
  obtain ⟨other, hsame, -, rfl⟩ := hother.decodes
  cases hbytes.symm.trans hsame
  rfl

end Base64

theorem Curve.name_injective
    {a b : Curve}
    (h : a.name = b.name) :
    a = b := by
  cases a <;> cases b <;> first | rfl | exact absurd h (by decide)

theorem PublicKey.decode?_of_publicBytes
    (pair : KeyPair) :
    decode? pair.publicKey.kind pair.publicBytes = some pair.publicKey :=
  pair.material.holdsPublic_encode

/-- The public key in an envelope depends only on what stands in the envelope. -/
theorem PublicKey.decode?_eq_of_info
    {kind : KeyKind} {envelope other : Bytes}
    (h : Der.PublicKeyInfo.decode? envelope = Der.PublicKeyInfo.decode? other) :
    decode? kind envelope = decode? kind other := by
  simp only [decode?, h]

namespace Jwk

/-- A published key spells the public key of a pair: modulus and exponent of an RSA key, or the
curve and the coordinates of a point, which follow a four in the envelope of the pair's public
half. -/
inductive Describes (pair : KeyPair) : Jwk → Prop
  | rsa {key : RsaJwk} {bare : Rsa.PublicKey}
      (hpublic : pair.publicKey = .rsa bare)
      (hn : Base64.SpellsNumber key.n bare.modulus)
      (he : Base64.SpellsNumber key.e bare.exponent) :
      Describes pair (.rsa key)
  | ec {key : EcJwk} {curve : Curve} {point : Point} {x y : Bytes}
      (hpublic : pair.publicKey = .ec curve point)
      (hcrv : key.crv = curve.name)
      (hx : Base64.SpellsWidth key.x curve.width x)
      (hy : Base64.SpellsWidth key.y curve.width y)
      (hinfo : Der.PublicKeyInfo.decode? pair.publicBytes
        = some ⟨Der.ecAlgorithm curve, 0x04 :: (x ++ y)⟩) :
      Describes pair (.ec key)

theorem describes_ofPair
    (kid : String) (pair : KeyPair) :
    (ofPair kid pair).Describes pair := by
  obtain ⟨algorithm, material, fits⟩ := pair
  cases material with
  | rsa key consistent publishable =>
      obtain ⟨-, -, hbelow, hexponent, -⟩ := publishable.1
      exact .rsa rfl (Base64.spellsNumber_encode (by omega)) (Base64.spellsNumber_encode (by omega))
  | ec curve key =>
      exact .ec rfl rfl (Base64.spellsWidth_encode _ _) (Base64.spellsWidth_encode _ _)
        (PublicKey.info_encode_ec curve key.point)

/-- A published key describes one public key only. -/
theorem Describes.publicKey_eq
    {key : Jwk} {pair other : KeyPair}
    (h : key.Describes pair)
    (hother : key.Describes other) :
    pair.publicKey = other.publicKey := by
  cases h with
  | rsa hpublic hn he =>
      cases hother with
      | rsa hotherPublic hotherN hotherE =>
          rw [hpublic, hotherPublic, PublicKey.rsa.injEq, Rsa.PublicKey.mk.injEq]
          exact ⟨hn.unique hotherN, he.unique hotherE⟩
  | ec hpublic hcrv hx hy hinfo =>
      cases hother with
      | ec hotherPublic hotherCrv hotherX hotherY hotherInfo =>
          cases Curve.name_injective (hcrv.symm.trans hotherCrv)
          cases hx.decodes.symm.trans hotherX.decodes
          cases hy.decodes.symm.trans hotherY.decodes
          -- both public halves hold the same bytes, and each is read as the public key of its pair
          have hread := PublicKey.decode?_of_publicBytes pair
          have hotherRead := PublicKey.decode?_of_publicBytes other
          rw [hpublic] at hread ⊢
          rw [hotherPublic] at hotherRead ⊢
          rw [PublicKey.decode?_eq_of_info (hinfo.trans hotherInfo.symm)] at hread
          exact Option.some.inj (hread.symm.trans hotherRead)

theorem kid_ofPair
    (kid : String) (pair : KeyPair) :
    (ofPair kid pair).kid = kid := by
  obtain ⟨algorithm, material, fits⟩ := pair
  cases material <;> rfl

/-- The key that a document text spells. -/
def ofText? (text : String) : Option Jwk := do
  let json ← Json.parse? text
  ofJson? 0 json

/-- A published key is read back from both texts of its document. -/
theorem ofText?_toJson
    (key : Jwk) :
    ofText? key.toJson.compact = some key ∧ ofText? key.toJson.pretty = some key := by
  have hread := ofJson?_toJson key (show 0 < Json.maxNesting by decide)
  constructor
  · rw [ofText?, Json.parse?_compact key.plain_toJson]
    exact hread
  · rw [ofText?, Json.parse?_pretty key.plain_toJson]
    exact hread

/-- Every key pair has a published key under each key id, which names its algorithm and describes
its public key.  Pairs with the same published key have the same algorithm and the same public key,
and a published key is read back from the text of its document. -/
theorem published_determines :
    (∀ kid pair, ∃ key, encode kid pair = .ok key ∧ key.kid = kid ∧
      key.alg = pair.algorithm.name ∧ key.Describes pair) ∧
    (∀ kid pair other key, encode kid pair = .ok key → encode kid other = .ok key →
      pair.algorithm = other.algorithm ∧ pair.publicKey = other.publicKey) ∧
    ∀ key : Jwk, ofText? key.toJson.compact = some key ∧ ofText? key.toJson.pretty = some key := by
  refine ⟨?_, ?_, ofText?_toJson⟩
  · intro kid pair
    exact ⟨_, encode_eq kid pair, kid_ofPair kid pair, (pair.registry_jwk kid).1,
      describes_ofPair kid pair⟩
  · intro kid pair other key h hother
    rw [encode_eq] at h hother
    have hsame : ofPair kid pair = ofPair kid other :=
      (Except.ok.inj h).trans (Except.ok.inj hother).symm
    constructor
    · apply Algorithm.name_injective
      rw [← (pair.registry_jwk kid).1, hsame, (other.registry_jwk kid).1]
    · have hdescribed := describes_ofPair kid pair
      rw [hsame] at hdescribed
      exact hdescribed.publicKey_eq (describes_ofPair kid other)

/-- The key pair on the largest curve whose private number is one. -/
def unitPair : KeyPair where
  algorithm := .es512
  material := .ec .p521 {
    scalar := 1
    point := Elliptic.generator .p521
    scalar_pos := by decide
    scalar_lt := by decide
    base?_scalar := by decide +kernel
    onCurve := by decide +kernel }
  fits := rfl

/-- Two private keys with one public key are published alike, and a coordinate that begins with a
zero is published with it. -/
theorem leastReversed_published :
    ∃ key single,
      encode "deploy" .least = .ok key ∧ encode "deploy" .leastReversed = .ok key ∧
      key.Describes .least ∧ key.Describes .leastReversed ∧
      KeyPair.least.publicKey = KeyPair.leastReversed.publicKey ∧
      encode "deploy" unitPair = .ok (.ec single) ∧ (ec single).Describes unitPair ∧
      (Base64.decode .standard single.x).bind List.head? = some 0 := by
  obtain ⟨hpublished, hdetermined, -⟩ := published_determines
  obtain ⟨key, hkey, -, -, hdescribes⟩ := hpublished "deploy" .least
  obtain ⟨other, hother, -, -, hotherDescribes⟩ := hpublished "deploy" .leastReversed
  have hsame : encode "deploy" .leastReversed = .ok key := hkey
  cases hother.symm.trans hsame
  obtain ⟨single, hsingle, -, -, hsingleDescribes⟩ := hpublished "deploy" unitPair
  cases hsingle.symm.trans (encode_eq "deploy" unitPair)
  refine ⟨key, _, hkey, hsame, hdescribes, hotherDescribes, (hdetermined _ _ _ _ hkey hsame).2,
    hsingle, hsingleDescribes, ?_⟩
  rw [Base64.decode_encode]
  decide +kernel

end Jwk
end WorkloadIdentity
