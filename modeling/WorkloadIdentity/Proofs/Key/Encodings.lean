import WorkloadIdentity.Key.Pair
import WorkloadIdentity.Proofs.Der.Envelopes

/-!
# Keys are read back from their encodings

A key pair that has an encoding is read back from it: both halves, under the pair's own algorithm.
The private RSA key comes back with the same factors and exponents, whatever their sizes; a curve's
private number and public point come back in the width of their field.

* `Material.decode_encodePrivate?`: material is read back from its two envelopes.
* `KeyPair.decode_privateBytes`: so is a key pair.
-/

namespace WorkloadIdentity

open Der

namespace Der

theorem bounded?_eq_some_iff
    {bytes short : Bytes} :
    bounded? bytes = some short ↔ short = bytes ∧ bytes.length < maxLength := by
  unfold bounded?
  constructor
  · intro h
    split at h
    · next hlength =>
      cases h
      exact ⟨rfl, hlength⟩
    · cases h
  · rintro ⟨rfl, hlength⟩
    rw [if_pos hlength]

theorem hasKnownTag_rsaAlgorithm :
    rsaAlgorithm.HasKnownTag := by
  intro parameter h
  obtain rfl : null = parameter := by simpa [rsaAlgorithm] using h
  decide

theorem hasKnownTag_ecAlgorithm
    (curve : Curve) :
    (ecAlgorithm curve).HasKnownTag := by
  intro parameter h
  obtain rfl : identifier (curveName curve) = parameter := by simpa [ecAlgorithm] using h
  show knownTag Tag.identifier
  decide

/-- The identifiers of algorithms are short. -/
theorem length_toElement_le
    (curve : Curve) :
    rsaAlgorithm.toElement.encode.length ≤ 32 ∧
      (ecAlgorithm curve).toElement.encode.length ≤ 32 := by
  cases curve <;> exact ⟨by decide +kernel, by decide +kernel⟩

end Der

namespace Rsa

/-- A private key is read back from its bare encoding. -/
theorem PrivateKey.decode?_encode?
    {key : PrivateKey} {bytes : Bytes}
    (h : key.encode? = some bytes) :
    decode? bytes = some key := by
  simp only [encode?, Option.bind_eq_bind, Option.bind_eq_some_iff] at h
  obtain ⟨coefficient, -, h⟩ := h
  obtain ⟨rfl, hlength⟩ := bounded?_eq_some_iff.mp h
  have hread := sequence?_encode (knownTag_natural [0, key.modulus, key.exponent,
    key.privateExponent, key.prime1, key.prime2, key.privateExponent % (key.prime1 - 1),
    key.privateExponent % (key.prime2 - 1), coefficient]) hlength
  have hnumbers := mapM_natural?_natural [0, key.modulus, key.exponent, key.privateExponent,
    key.prime1, key.prime2, key.privateExponent % (key.prime1 - 1),
    key.privateExponent % (key.prime2 - 1), coefficient]
  simp only [List.map_cons, List.map_nil] at hread hnumbers
  simp only [decode?, hread, hnumbers, Option.bind_eq_bind, Option.bind_some]
  rfl

/-- A modulus of so many bytes is below the power that they can spell. -/
theorem PublicKey.modulus_lt
    {key : PublicKey} {width : Nat}
    (h : key.bits ≤ 8 * width) :
    key.modulus < Nat.pow 256 width := by
  have hpower : Nat.pow 256 width = 2 ^ (8 * width) := (Nat.pow_mul 2 8 width).symm
  rw [hpower]
  unfold bits at h
  split at h
  · next hzero =>
    rw [hzero]
    exact Nat.two_pow_pos _
  · next hne =>
    exact (Nat.log2_lt hne).mp (by omega)

/-- The encoding of a key that is published is short. -/
theorem PublicKey.length_encode_le
    {key : PublicKey}
    (h : key.Publishable) :
    key.encode.length ≤ 1024 := by
  obtain ⟨⟨-, -, -, -, hexponent⟩, hbits⟩ := h
  have hlong : maxLength = 268435456 := rfl
  have hn := length_naturalContent_le (by decide) (modulus_lt (show key.bits ≤ 8 * 512 from hbits))
  have he := length_naturalContent_le (by decide)
    (show key.exponent < Nat.pow 256 5 from Nat.lt_trans hexponent (by decide))
  have hn' := Der.length_encode_le (show (natural key.modulus).content.length < maxLength by
    show (naturalContent key.modulus).length < maxLength
    omega)
  have he' := Der.length_encode_le (show (natural key.exponent).content.length < maxLength by
    show (naturalContent key.exponent).length < maxLength
    omega)
  have hcontent : (Der.sequence [natural key.modulus, natural key.exponent]).content.length
      ≤ 540 := by
    show (encodeAll [natural key.modulus, natural key.exponent]).length ≤ 540
    simp only [encodeAll_cons, encodeAll_nil, List.append_nil, List.length_append]
    simp only [natural] at hn' he' ⊢
    omega
  have hall := @Der.length_encode_le (Der.sequence [natural key.modulus, natural key.exponent])
    (by omega)
  rw [encode]
  omega

theorem PublicKey.decode?_encode
    {key : PublicKey}
    (hlength : key.encode.length < maxLength) :
    decode? key.encode = some key := by
  have hread := sequence?_encode (knownTag_natural [key.modulus, key.exponent]) hlength
  have hnumbers := mapM_natural?_natural [key.modulus, key.exponent]
  simp only [List.map_cons, List.map_nil] at hread hnumbers
  simp only [decode?, encode, hread, hnumbers, Option.bind_eq_bind, Option.bind_some]
  rfl

end Rsa

namespace Elliptic

theorem width_le
    (curve : Curve) :
    24 ≤ curve.width ∧ curve.width ≤ 66 := by
  cases curve <;> decide

theorem order_lt
    (curve : Curve) :
    curve.order < Nat.pow 256 curve.width := by
  cases curve <;> decide +kernel

@[simp] theorem length_encode
    (curve : Curve) (point : Point) :
    (encode curve point).length = 2 * curve.width + 1 := by
  simp [encode]
  omega

theorem dropParameters?_wrapped
    (content : Bytes) :
    dropParameters? [⟨Tag.wrapped 1, content⟩] = some [⟨Tag.wrapped 1, content⟩] := by
  have htag : ¬ Tag.context? (Tag.wrapped 1) = some 0 := by decide
  rw [dropParameters?, if_neg htag]

theorem publicPoint?_bits
    {bytes : Bytes}
    (hlength : bytes.length + 1 < maxLength) :
    publicPoint? [⟨Tag.wrapped 1, (bitString bytes).encode⟩] = some (some bytes) := by
  have htag : ¬ Tag.context? (Tag.wrapped 1) = some 0 := by decide
  have hsingle : single? (bitString bytes).encode = some (bitString bytes) :=
    single?_encode (show knownTag Tag.bitString by decide) (by simpa [bitString] using hlength)
  rw [publicPoint?, if_neg htag, if_pos ⟨rfl, rfl⟩, hsingle]
  rfl

/-- A private key is read back from its bare encoding. -/
theorem PrivateKey.decode?_encode
    {curve : Curve} (key : PrivateKey curve)
    (hlength : key.encode.length < maxLength) :
    decode? curve key.encode = some key := by
  have htags : ∀ element ∈ [natural 1, octetString (Bytes.fixed curve.width key.scalar),
      ⟨Tag.wrapped 1, (bitString (Elliptic.encode curve key.point)).encode⟩],
      knownTag element.tag := by
    have hinteger : knownTag Tag.integer := by decide
    have hoctets : knownTag Tag.octetString := by decide
    have hwrapped : knownTag (Tag.wrapped 1) := by decide
    simp [natural, octetString, hinteger, hoctets, hwrapped]
  have hread := sequence?_encode htags hlength
  obtain ⟨hlow, hhigh⟩ := width_le curve
  have hlong : maxLength = 268435456 := rfl
  have hpoint := @publicPoint?_bits (Elliptic.encode curve key.point) (by simp; omega)
  have hscalar : Bytes.toNat (Bytes.fixed curve.width key.scalar) = key.scalar :=
    Bytes.toNat_fixed (Nat.lt_trans key.scalar_lt (order_lt curve))
  have hoctets : (octetString (Bytes.fixed curve.width key.scalar)).content? Tag.octetString
      = some (Bytes.fixed curve.width key.scalar) := rfl
  have hrange : 24 ≤ (Bytes.fixed curve.width key.scalar).length
      ∧ (Bytes.fixed curve.width key.scalar).length ≤ curve.width := by
    simp [hlow]
  simp only [decode?, encode, hread, natural?_natural, hoctets, dropParameters?_wrapped, hpoint,
    Option.bind_eq_bind, Option.bind_some, hscalar, ofScalar?_scalar]
  rw [if_pos ⟨trivial, hrange⟩, if_pos (Or.inl trivial)]

/-- The encoding of a private key is short. -/
theorem PrivateKey.length_encode_le
    {curve : Curve} (key : PrivateKey curve) :
    key.encode.length ≤ 1024 := by
  obtain ⟨hlow, hhigh⟩ := width_le curve
  have hlong : maxLength = 268435456 := rfl
  have hone : (natural 1).encode.length = 3 := by decide +kernel
  have hscalar := @Der.length_encode_le (octetString (Bytes.fixed curve.width key.scalar))
    (by simp [octetString]; omega)
  have hbits := @Der.length_encode_le (bitString (Elliptic.encode curve key.point))
    (by simp [bitString]; omega)
  have hscalar' : (octetString (Bytes.fixed curve.width key.scalar)).content.length
      = curve.width := by
    simp [octetString]
  have hbits' : (bitString (Elliptic.encode curve key.point)).content.length
      = 2 * curve.width + 2 := by
    simp [bitString]
  have hwrapped := @Der.length_encode_le
    ⟨Tag.wrapped 1, (bitString (Elliptic.encode curve key.point)).encode⟩
    (by show (bitString (Elliptic.encode curve key.point)).encode.length < maxLength; omega)
  simp only at hwrapped
  have hcontent : (Der.sequence [natural 1, octetString (Bytes.fixed curve.width key.scalar),
      ⟨Tag.wrapped 1, (bitString (Elliptic.encode curve key.point)).encode⟩]).content.length
      ≤ 300 := by
    show (encodeAll [natural 1, octetString (Bytes.fixed curve.width key.scalar),
      ⟨Tag.wrapped 1, (bitString (Elliptic.encode curve key.point)).encode⟩]).length ≤ 300
    simp only [encodeAll_cons, encodeAll_nil, List.append_nil, List.length_append]
    omega
  have hall := @Der.length_encode_le (Der.sequence [natural 1,
    octetString (Bytes.fixed curve.width key.scalar),
    ⟨Tag.wrapped 1, (bitString (Elliptic.encode curve key.point)).encode⟩]) (by omega)
  rw [encode]
  omega

end Elliptic

namespace PublicKey

/-- The envelope of a public key is short if the key is. -/
theorem length_encode_le
    {algorithm : AlgorithmId} {key : Bytes}
    (halgorithm : algorithm.toElement.encode.length ≤ 32)
    (hkey : key.length ≤ 1024) :
    (PublicKeyInfo.encode ⟨algorithm, key⟩).length < maxLength := by
  have hlong : maxLength = 268435456 := rfl
  have hbits := @Der.length_encode_le (bitString key) (by simp [bitString]; omega)
  have hbits' : (bitString key).content.length = key.length + 1 := by simp [bitString]
  have hcontent : (Der.sequence [algorithm.toElement, bitString key]).content.length ≤ 1100 := by
    show (encodeAll [algorithm.toElement, bitString key]).length ≤ 1100
    simp only [encodeAll_cons, encodeAll_nil, List.append_nil, List.length_append]
    omega
  have hall := @Der.length_encode_le (Der.sequence [algorithm.toElement, bitString key])
    (by omega)
  rw [PublicKeyInfo.encode]
  simp only
  omega

/-- The envelope of a published RSA key holds its bare encoding. -/
theorem info_encode_rsa
    {key : Rsa.PublicKey}
    (h : key.Publishable) :
    PublicKeyInfo.decode? (encode (.rsa key)) = some ⟨rsaAlgorithm, key.encode⟩ :=
  PublicKeyInfo.decode?_encode hasKnownTag_rsaAlgorithm
    (length_encode_le (length_toElement_le .p256).1 (Rsa.PublicKey.length_encode_le h))

/-- The envelope of a point holds its uncompressed encoding. -/
theorem info_encode_ec
    (curve : Curve) (point : Point) :
    PublicKeyInfo.decode? (encode (.ec curve point))
      = some ⟨ecAlgorithm curve, Elliptic.encode curve point⟩ := by
  obtain ⟨-, hhigh⟩ := Elliptic.width_le curve
  have hlength := length_encode_le (length_toElement_le curve).2
    (show (Elliptic.encode curve point).length ≤ 1024 by simp; omega)
  exact PublicKeyInfo.decode?_encode (hasKnownTag_ecAlgorithm curve) hlength

/-- A published RSA key is read back from its envelope. -/
theorem decode?_encode_rsa
    {key : Rsa.PublicKey}
    (h : key.Publishable) :
    decode? .rsa (encode (.rsa key)) = some (.rsa key) := by
  have hbare := Rsa.PublicKey.length_encode_le h
  have hlong : maxLength = 268435456 := rfl
  have hkey := @Rsa.PublicKey.decode?_encode key (by omega)
  simp only [decode?, info_encode_rsa h, hkey, if_true, Option.bind_eq_bind, Option.bind_some]
  rw [if_pos h]

/-- A point of a curve is read back from its envelope. -/
theorem decode?_encode_ec
    {curve : Curve} {point : Point}
    (h : Elliptic.OnCurve curve point) :
    decode? (.ec curve) (encode (.ec curve point)) = some (.ec curve point) := by
  simp only [decode?, info_encode_ec, Elliptic.decode?_encode h, if_true, Option.bind_eq_bind,
    Option.bind_some]

end PublicKey

/-- A consistent private key is read back from its envelope. -/
theorem Rsa.PrivateKey.open?_encode
    {key : Rsa.PrivateKey} {bytes envelope : Bytes}
    (hconsistent : key.Consistent)
    (hbytes : key.encode? = some bytes)
    (henvelope : bounded? (PrivateKeyInfo.encode ⟨rsaAlgorithm, bytes⟩) = some envelope) :
    open? envelope = some ⟨key, hconsistent⟩ := by
  obtain ⟨rfl, hlength⟩ := bounded?_eq_some_iff.mp henvelope
  have hinfo := PrivateKeyInfo.decode?_encode hasKnownTag_rsaAlgorithm hlength
  simp only [open?, hinfo, decode?_encode? hbytes, if_true, Option.bind_eq_bind,
    Option.bind_some]
  rw [dif_pos hconsistent]

/-- A private key on a curve is read back from its envelope. -/
theorem Elliptic.PrivateKey.open?_encode
    {curve : Curve} (key : Elliptic.PrivateKey curve) :
    open? curve (PrivateKeyInfo.encode ⟨ecAlgorithm curve, key.encode⟩) = some key := by
  have hbare := key.length_encode_le
  have hlong : maxLength = 268435456 := rfl
  have halgorithm := (length_toElement_le curve).2
  have hversion : (natural 0).encode.length = 3 := by decide +kernel
  have hoctets := @Der.length_encode_le (octetString key.encode) (by simp [octetString]; omega)
  have hoctets' : (octetString key.encode).content.length = key.encode.length := rfl
  have hcontent : (Der.sequence [natural 0, (ecAlgorithm curve).toElement,
      octetString key.encode]).content.length ≤ 1100 := by
    show (encodeAll [natural 0, (ecAlgorithm curve).toElement, octetString key.encode]).length
      ≤ 1100
    simp only [encodeAll_cons, encodeAll_nil, List.append_nil, List.length_append]
    omega
  have hall := @Der.length_encode_le (Der.sequence [natural 0, (ecAlgorithm curve).toElement,
    octetString key.encode]) (by omega)
  have hinfo := @PrivateKeyInfo.decode?_encode ⟨ecAlgorithm curve, key.encode⟩
    (hasKnownTag_ecAlgorithm curve) (by rw [PrivateKeyInfo.encode]; simp only; omega)
  simp only [open?, hinfo, if_true, Option.bind_eq_bind, Option.bind_some]
  exact key.decode?_encode (by omega)

namespace Material

/-- Material that has an encoding is read back from its two envelopes. -/
theorem decode_encodePrivate?
    {material : Material} {bytes : Bytes}
    (h : material.encodePrivate? = some bytes) :
    decode material.kind bytes material.publicKey.encode = .ok material := by
  cases material with
  | rsa key consistent publishable =>
      simp only [encodePrivate?, Option.bind_eq_bind, Option.bind_eq_some_iff] at h
      obtain ⟨bare, hbare, h⟩ := h
      have hprivate := Rsa.PrivateKey.open?_encode consistent hbare h
      have hpublic := PublicKey.decode?_encode_rsa publishable
      simp only [kind, publicKey, decode, hprivate, hpublic]
      rw [dif_pos ⟨trivial, publishable⟩]
  | ec curve key =>
      simp only [encodePrivate?, Option.some.injEq] at h
      subst h
      have hpublic := PublicKey.decode?_encode_ec key.onCurve
      simp only [kind, publicKey, decode, key.open?_encode, hpublic, if_true]

end Material

namespace KeyPair

theorem privateBytes_eq_ok_iff
    {pair : KeyPair} {bytes : Bytes} :
    pair.privateBytes = .ok bytes ↔ pair.material.encodePrivate? = some bytes := by
  unfold privateBytes
  split
  · next h => simp [h]
  · next found h => simp [h]

/-- A key pair that has an encoding is read back from its two halves. -/
theorem decode_privateBytes
    {pair : KeyPair} {bytes : Bytes}
    (h : pair.privateBytes = .ok bytes) :
    decode pair.algorithm bytes pair.publicBytes = .ok pair := by
  have hmaterial := Material.decode_encodePrivate? (privateBytes_eq_ok_iff.mp h)
  rw [pair.fits] at hmaterial
  rw [decode, publicBytes, publicKey, hmaterial]
  exact ofParts_ok_iff.mpr ⟨rfl, rfl⟩

/-- A pair that signs with RS256 is read back from its private half alone. -/
theorem ofRsaPrivate_privateBytes
    {pair : KeyPair} {bytes : Bytes}
    (h : pair.privateBytes = .ok bytes)
    (halgorithm : pair.algorithm = .rs256) :
    ofRsaPrivate bytes = .ok pair := by
  obtain ⟨algorithm, material, fits⟩ := pair
  subst halgorithm
  cases material with
  | ec curve key => cases fits
  | rsa key consistent publishable =>
      have hencode := privateBytes_eq_ok_iff.mp h
      simp only [Material.encodePrivate?, Option.bind_eq_bind, Option.bind_eq_some_iff] at hencode
      obtain ⟨bare, hbare, henvelope⟩ := hencode
      have hmaterial : Material.ofRsaPrivate bytes = .ok (.rsa key consistent publishable) := by
        simp only [Material.ofRsaPrivate, Rsa.PrivateKey.open?_encode consistent hbare henvelope]
        rw [dif_pos publishable]
      simp only [ofRsaPrivate, hmaterial, bind, Except.bind]
      exact ofParts_ok_iff.mpr ⟨rfl, rfl⟩

end KeyPair
end WorkloadIdentity
