import WorkloadIdentity.Proofs.Metadata.Dispatch

/-!
# Key pairs are consistent with their algorithm

A key in an envelope names its kind there, so the same bytes never hold keys of two kinds.  Two
envelopes are taken for a key pair exactly if the second holds the public key that belongs to the
private key in the first, and the algorithm needs a key of its kind.  Tying the material of a pair
to another algorithm succeeds only for algorithms of the same kind; so nothing that looks at the
algorithm and the material of a pair side by side ever finds them apart.

* `KeyPair.decode_eq_ok_iff`: what two envelopes are decoded to.
* `KeyPair.ofRsaPrivate_eq_ok_iff`: what an RSA private key alone is decoded to.
* `KeyPair.decode_succeeds_iff`: which envelopes are taken for a key pair.
* `Material.signAs_eq_foreign_iff`: when signing finds material of another kind.
* `KeyPair.pairing_consistent`: all of this for pairs that were decoded and tied anew.
-/

namespace WorkloadIdentity

def PublicKey.kind : PublicKey → KeyKind
  | rsa _ => .rsa
  | ec curve _ => .ec curve

/-- The algorithm that envelopes name for keys of a kind. -/
def KeyKind.identifier : KeyKind → Der.AlgorithmId
  | rsa => Der.rsaAlgorithm
  | ec curve => Der.ecAlgorithm curve

theorem KeyKind.identifier_inj
    {a b : KeyKind}
    (h : a.identifier = b.identifier) :
    a = b := by
  cases a with
  | rsa =>
      cases b with
      | rsa => rfl
      | ec curve => cases curve <;> revert h <;> decide
  | ec curve =>
      cases b with
      | rsa => cases curve <;> revert h <;> decide
      | ec other =>
          have hcurve : curve = other := by
            cases curve <;> cases other <;> revert h <;> decide
          rw [hcurve]

/-- What is found in an envelope names one kind of key only. -/
theorem KeyKind.eq_of_named
    {Info : Type} {found : Option Info} {algorithmOf : Info → Der.AlgorithmId} {a b : KeyKind}
    (ha : ∃ info, found = some info ∧ algorithmOf info = a.identifier)
    (hb : ∃ info, found = some info ∧ algorithmOf info = b.identifier) :
    a = b := by
  obtain ⟨info, hinfo, hkind⟩ := ha
  obtain ⟨other, hother, hotherKind⟩ := hb
  obtain rfl : info = other := Option.some.inj (hinfo.symm.trans hother)
  exact identifier_inj (hkind.symm.trans hotherKind)

/-- An envelope holds the private key that a public key belongs to: on a curve, the public key is
the multiple of the base point by the private number. -/
inductive HoldsPrivate (envelope : Bytes) : PublicKey → Prop
  | rsa {key : Rsa.PrivateKey} {consistent : key.Consistent}
      (hkey : Rsa.PrivateKey.open? envelope = some ⟨key, consistent⟩) :
      HoldsPrivate envelope (.rsa ⟨key.modulus, key.exponent⟩)
  | ec {curve : Curve} {key : Elliptic.PrivateKey curve} {point : Point}
      (hkey : Elliptic.PrivateKey.open? curve envelope = some key)
      (hpoint : Elliptic.base? curve key.scalar = some point) :
      HoldsPrivate envelope (.ec curve point)

/-- An envelope holds a public key. -/
def HoldsPublic
    (envelope : Bytes)
    (key : PublicKey) : Prop :=
  PublicKey.decode? key.kind envelope = some key

section Envelopes

variable {envelope : Bytes} {key other : PublicKey}

theorem Rsa.PrivateKey.info_of_open?
    {opened : { key : Rsa.PrivateKey // key.Consistent }}
    (h : open? envelope = some opened) :
    ∃ info, Der.PrivateKeyInfo.decode? envelope = some info ∧
      info.algorithm = Der.rsaAlgorithm := by
  simp only [open?, Option.bind_eq_bind, Option.bind_eq_some_iff] at h
  obtain ⟨info, hinfo, h⟩ := h
  split at h
  · next halgorithm => exact ⟨info, hinfo, halgorithm⟩
  · cases h

theorem Elliptic.PrivateKey.info_of_open?
    {curve : Curve} {opened : Elliptic.PrivateKey curve}
    (h : open? curve envelope = some opened) :
    ∃ info, Der.PrivateKeyInfo.decode? envelope = some info ∧
      info.algorithm = Der.ecAlgorithm curve := by
  simp only [open?, Option.bind_eq_bind, Option.bind_eq_some_iff] at h
  obtain ⟨info, hinfo, h⟩ := h
  split at h
  · next halgorithm => exact ⟨info, hinfo, halgorithm⟩
  · cases h

/-- A public key that is decoded under a kind is of the kind, which its envelope names, and an RSA
key is small enough to be published. -/
theorem PublicKey.decode?_eq_some
    {kind : KeyKind}
    (h : decode? kind envelope = some key) :
    key.kind = kind ∧
      (∃ info, Der.PublicKeyInfo.decode? envelope = some info ∧
        info.algorithm = kind.identifier) ∧
      ∀ bare, key = .rsa bare → bare.Publishable := by
  simp only [decode?, Option.bind_eq_bind, Option.bind_eq_some_iff] at h
  obtain ⟨info, hinfo, h⟩ := h
  cases kind with
  | rsa =>
      simp only at h
      split at h
      · next halgorithm =>
        obtain ⟨bare, -, h⟩ := Option.bind_eq_some_iff.mp h
        split at h
        · next hpublishable =>
          cases h
          refine ⟨rfl, ⟨info, hinfo, halgorithm⟩, ?_⟩
          rintro _ ⟨rfl⟩
          exact hpublishable
        · cases h
      · cases h
  | ec curve =>
      simp only at h
      split at h
      · next halgorithm =>
        obtain ⟨point, -, h⟩ := Option.bind_eq_some_iff.mp h
        cases h
        refine ⟨rfl, ⟨info, hinfo, halgorithm⟩, ?_⟩
        rintro _ ⟨⟩
      · cases h

/-- An envelope with a private key names the key's kind. -/
theorem HoldsPrivate.info
    (h : HoldsPrivate envelope key) :
    ∃ info, Der.PrivateKeyInfo.decode? envelope = some info ∧
      info.algorithm = key.kind.identifier := by
  cases h with
  | rsa hkey => exact Rsa.PrivateKey.info_of_open? hkey
  | ec hkey hpoint => exact Elliptic.PrivateKey.info_of_open? hkey

/-- An envelope with a public key names the key's kind. -/
theorem HoldsPublic.info
    (h : HoldsPublic envelope key) :
    ∃ info, Der.PublicKeyInfo.decode? envelope = some info ∧
      info.algorithm = key.kind.identifier :=
  (PublicKey.decode?_eq_some h).2.1

/-- An envelope holds the private key of one public key only. -/
theorem HoldsPrivate.unique
    (h : HoldsPrivate envelope key)
    (hother : HoldsPrivate envelope other) :
    key = other := by
  have hsame := KeyKind.eq_of_named h.info hother.info
  cases h with
  | rsa hkey =>
      cases hother with
      | rsa hotherKey =>
          cases hkey.symm.trans hotherKey
          rfl
      | ec _ _ => cases hsame
  | ec hkey hpoint =>
      cases hother with
      | rsa _ => cases hsame
      | ec hotherKey hotherPoint =>
          cases hsame
          cases hkey.symm.trans hotherKey
          cases hpoint.symm.trans hotherPoint
          rfl

/-- An envelope holds one public key only. -/
theorem HoldsPublic.unique
    (h : HoldsPublic envelope key)
    (hother : HoldsPublic envelope other) :
    key = other := by
  have hsame := KeyKind.eq_of_named h.info hother.info
  rw [HoldsPublic, hsame] at h
  exact Option.some.inj (h.symm.trans hother)

theorem holdsPublic_of_decode?
    {kind : KeyKind}
    (h : PublicKey.decode? kind envelope = some key) :
    HoldsPublic envelope key := by
  rw [HoldsPublic, (PublicKey.decode?_eq_some h).1, h]

end Envelopes

/-- An envelope holds the private key of some material. -/
inductive Material.HeldBy (envelope : Bytes) : Material → Prop
  | rsa {key : Rsa.PrivateKey} {consistent : key.Consistent}
      (publishable : key.publicKey.Publishable)
      (hkey : Rsa.PrivateKey.open? envelope = some ⟨key, consistent⟩) :
      HeldBy envelope (.rsa key consistent publishable)
  | ec {curve : Curve} {key : Elliptic.PrivateKey curve}
      (hkey : Elliptic.PrivateKey.open? curve envelope = some key) :
      HeldBy envelope (.ec curve key)

namespace Material

variable {kind : KeyKind} {envelope privateBytes publicBytes : Bytes}
  {material another : Material}

@[simp] theorem kind_publicKey
    (material : Material) :
    material.publicKey.kind = material.kind := by
  cases material <;> rfl

/-- The public half that is written for material holds its public key. -/
theorem holdsPublic_encode
    (material : Material) :
    HoldsPublic material.publicKey.encode material.publicKey := by
  cases material with
  | rsa key consistent publishable => exact PublicKey.decode?_encode_rsa publishable
  | ec curve key => exact PublicKey.decode?_encode_ec key.onCurve

/-- An envelope that holds material holds the private key that its public key belongs to. -/
theorem HeldBy.holdsPrivate
    (h : material.HeldBy envelope) :
    HoldsPrivate envelope material.publicKey := by
  cases h with
  | rsa publishable hkey => exact .rsa hkey
  | ec hkey => exact .ec hkey (Elliptic.PrivateKey.base?_scalar _)

/-- An envelope that holds material names its kind. -/
theorem HeldBy.info
    (h : material.HeldBy envelope) :
    ∃ info, Der.PrivateKeyInfo.decode? envelope = some info ∧
      info.algorithm = material.kind.identifier := by
  rw [← kind_publicKey]
  exact h.holdsPrivate.info

/-- An envelope holds one material only. -/
theorem HeldBy.unique
    (h : material.HeldBy envelope)
    (hanother : another.HeldBy envelope) :
    material = another := by
  have hkind := KeyKind.eq_of_named h.info hanother.info
  cases h with
  | rsa publishable hkey =>
      cases hanother with
      | rsa _ hanother =>
          cases hkey.symm.trans hanother
          rfl
      | ec _ => cases hkind
  | ec hkey =>
      cases hanother with
      | rsa _ _ => cases hkind
      | ec hanother =>
          cases hkind
          cases hkey.symm.trans hanother
          rfl

/-- The two halves of a key are those of some material. -/
theorem exists_heldBy
    {key : PublicKey}
    (hprivate : HoldsPrivate privateBytes key)
    (hpublic : HoldsPublic publicBytes key) :
    ∃ material : Material, material.HeldBy privateBytes ∧ material.publicKey = key := by
  cases hprivate with
  | @rsa secret consistent hsecret =>
      have hpublishable := (PublicKey.decode?_eq_some hpublic).2.2 _ rfl
      exact ⟨.rsa secret consistent hpublishable, .rsa _ hsecret, rfl⟩
  | @ec curve secret point hsecret hpoint =>
      obtain rfl : secret.point = point :=
        Option.some.inj (secret.base?_scalar.symm.trans hpoint)
      exact ⟨.ec curve secret, .ec hsecret, rfl⟩

/-- Two envelopes are decoded under a kind exactly to the material of the kind whose halves they
hold. -/
theorem decode_eq_ok_iff :
    decode kind privateBytes publicBytes = .ok material ↔
      material.kind = kind ∧ material.HeldBy privateBytes ∧
        HoldsPublic publicBytes material.publicKey := by
  constructor
  · intro h
    cases kind with
    | rsa =>
        simp only [decode] at h
        split at h
        · cases h
        · next key consistent hprivate =>
          split at h
          · cases h
          · next publicKey hpublic =>
            split at h
            · next hsame =>
              cases h
              exact ⟨rfl, .rsa _ hprivate, holdsPublic_of_decode? (hsame.1 ▸ hpublic)⟩
            · cases h
    | ec curve =>
        simp only [decode] at h
        split at h
        · cases h
        · next key hprivate =>
          split at h
          · cases h
          · next publicKey hpublic =>
            split at h
            · next hsame =>
              cases h
              exact ⟨rfl, .ec hprivate, holdsPublic_of_decode? (hsame ▸ hpublic)⟩
            · cases h
  · rintro ⟨rfl, hheld, hpublic⟩
    rw [HoldsPublic, kind_publicKey] at hpublic
    cases hheld with
    | rsa publishable hkey =>
        simp only [decode, kind, publicKey] at hpublic ⊢
        simp only [hkey, hpublic]
        exact dif_pos ⟨trivial, publishable⟩
    | ec hkey =>
        simp only [decode, kind, publicKey] at hpublic ⊢
        simp only [hkey, hpublic, if_true]

/-- A private RSA key alone is decoded exactly to the material that it holds. -/
theorem ofRsaPrivate_eq_ok_iff :
    ofRsaPrivate envelope = .ok material ↔ material.kind = .rsa ∧ material.HeldBy envelope := by
  unfold ofRsaPrivate
  constructor
  · intro h
    split at h
    · cases h
    · next key consistent hkey =>
      split at h
      · cases h
        exact ⟨rfl, .rsa _ hkey⟩
      · cases h
  · rintro ⟨hkind, hheld⟩
    cases hheld with
    | rsa publishable hkey =>
        simp only [hkey]
        exact dif_pos publishable
    | ec hkey => cases hkind

end Material

namespace KeyPair

variable {algorithm : Algorithm} {envelope privateBytes publicBytes : Bytes} {pair : KeyPair}

@[simp] theorem kind_publicKey
    (pair : KeyPair) :
    pair.publicKey.kind = pair.algorithm.kind := by
  rw [publicKey, Material.kind_publicKey, pair.fits]

/-- Two envelopes are decoded under an algorithm exactly to the pair whose halves they hold. -/
theorem decode_eq_ok_iff :
    decode algorithm privateBytes publicBytes = .ok pair ↔
      pair.algorithm = algorithm ∧ pair.material.HeldBy privateBytes ∧
        HoldsPublic publicBytes pair.publicKey := by
  constructor
  · intro h
    obtain ⟨material, hmaterial, hparts⟩ := exists_of_bind_ok h
    obtain ⟨halgorithm, rfl⟩ := ofParts_ok_iff.mp hparts
    exact ⟨halgorithm, (Material.decode_eq_ok_iff.mp hmaterial).2⟩
  · rintro ⟨rfl, hheld⟩
    have hmaterial := Material.decode_eq_ok_iff.mpr ⟨pair.fits, hheld⟩
    simp only [decode, hmaterial, bind, Except.bind]
    exact ofParts_ok_iff.mpr ⟨rfl, rfl⟩

/-- A private RSA key alone is decoded exactly to the pair of the first algorithm whose material it
holds. -/
theorem ofRsaPrivate_eq_ok_iff :
    ofRsaPrivate envelope = .ok pair ↔
      pair.algorithm = .rs256 ∧ pair.material.HeldBy envelope := by
  constructor
  · intro h
    obtain ⟨material, hmaterial, hparts⟩ := exists_of_bind_ok h
    obtain ⟨halgorithm, rfl⟩ := ofParts_ok_iff.mp hparts
    exact ⟨halgorithm, (Material.ofRsaPrivate_eq_ok_iff.mp hmaterial).2⟩
  · rintro ⟨halgorithm, hheld⟩
    have hkind : pair.material.kind = .rsa := by rw [pair.fits, halgorithm]; rfl
    have hmaterial := Material.ofRsaPrivate_eq_ok_iff.mpr ⟨hkind, hheld⟩
    simp only [ofRsaPrivate, hmaterial, bind, Except.bind]
    exact ofParts_ok_iff.mpr ⟨halgorithm, rfl⟩

/-- Two envelopes are taken for a key pair exactly if they hold the two halves of one key, of the
kind that the algorithm needs. -/
theorem decode_succeeds_iff :
    (∃ pair, decode algorithm privateBytes publicBytes = .ok pair) ↔
      ∃ key : PublicKey, key.kind = algorithm.kind ∧ HoldsPrivate privateBytes key ∧
        HoldsPublic publicBytes key := by
  constructor
  · rintro ⟨pair, h⟩
    obtain ⟨rfl, hheld, hpublic⟩ := decode_eq_ok_iff.mp h
    exact ⟨pair.publicKey, pair.kind_publicKey, hheld.holdsPrivate, hpublic⟩
  · rintro ⟨key, hkind, hprivate, hpublic⟩
    obtain ⟨material, hheld, rfl⟩ := Material.exists_heldBy hprivate hpublic
    rw [Material.kind_publicKey] at hkind
    exact ⟨⟨algorithm, material, hkind⟩, decode_eq_ok_iff.mpr ⟨rfl, hheld, hpublic⟩⟩

end KeyPair

/-- The signature of a message on a curve. -/
def Elliptic.PrivateKey.signature
    (curve : Curve) (digest : Digest) (key : Elliptic.PrivateKey curve) (message fresh : Bytes) :
    Except KeyFault Bytes :=
  match Elliptic.sign? curve digest key message fresh with
  | none => .error .noSecretNumber
  | some signature => .ok signature

/-- The signature of a message with an algorithm, whatever the kind of the material; material of
another kind than the algorithm's is refused. -/
def Material.signAs (algorithm : Algorithm) (material : Material) (message fresh : Bytes) :
    Except KeyFault Bytes :=
  match algorithm, material with
  | .rs256, .rsa key _ _ => (Rsa.sign .sha256 key message).mapError .signing
  | .rs384, .rsa key _ _ => (Rsa.sign .sha384 key message).mapError .signing
  | .rs512, .rsa key _ _ => (Rsa.sign .sha512 key message).mapError .signing
  | .es256, .ec .p256 key => key.signature .p256 .sha256 message fresh
  | .es384, .ec .p384 key => key.signature .p384 .sha384 message fresh
  | .es512, .ec .p521 key => key.signature .p521 .sha512 message fresh
  | algorithm, _ => .error (.foreignMaterial algorithm)

theorem Elliptic.PrivateKey.signature_ne_foreign
    {curve : Curve} {digest : Digest} {key : Elliptic.PrivateKey curve} {message fresh : Bytes}
    (other : Algorithm) :
    key.signature curve digest message fresh ≠ .error (.foreignMaterial other) := by
  unfold signature
  split <;>
    · intro h
      cases h

theorem Rsa.mapError_signing_ne_foreign
    (outcome : Except Rsa.SignFault Bytes) (other : Algorithm) :
    outcome.mapError KeyFault.signing ≠ .error (.foreignMaterial other) := by
  cases outcome <;>
    · intro h
      cases h

theorem Material.signAs_ec
    (curve : Curve) (key : Elliptic.PrivateKey curve) (message fresh : Bytes) :
    (Material.ec curve key).signAs (.ofCurve curve) message fresh
      = key.signature curve (Algorithm.ofCurve curve).digest message fresh := by
  cases curve <;> rfl

/-- Signing refuses material as foreign exactly if it is not of the kind that the algorithm
needs. -/
theorem Material.signAs_eq_foreign_iff
    {algorithm : Algorithm} {material : Material} {message fresh : Bytes} :
    (∃ other, material.signAs algorithm message fresh = .error (.foreignMaterial other)) ↔
      material.kind ≠ algorithm.kind := by
  constructor
  · rintro ⟨other, h⟩ hkind
    -- material of the right kind is signed with, by one of the two families
    cases material with
    | rsa key consistent publishable =>
        rcases Algorithm.kind_eq_rsa_iff.mp hkind.symm with rfl | rfl | rfl <;>
          exact Rsa.mapError_signing_ne_foreign _ other h
    | ec curve key =>
        obtain rfl := Algorithm.kind_eq_ec_iff.mp hkind.symm
        rw [signAs_ec] at h
        exact Elliptic.PrivateKey.signature_ne_foreign other h
  · intro hkind
    refine ⟨algorithm, ?_⟩
    unfold signAs
    split
    case h_7 => rfl
    all_goals exact absurd rfl hkind

/-- The public key that is computed from the private key of the material. -/
def Material.derived? : Material → Option PublicKey
  | rsa key _ _ => some (.rsa ⟨key.modulus, key.exponent⟩)
  | ec curve key => (Elliptic.base? curve key.scalar).map (.ec curve)

/-- The kind of key in the words of the registry. -/
def KeyKind.kty : KeyKind → String
  | rsa => "RSA"
  | ec _ => "EC"

/-- The curve in the words of the registry. -/
def KeyKind.crv? : KeyKind → Option String
  | rsa => none
  | ec curve => some curve.name

/-- The kind that a published key names. -/
def Jwk.kty : Jwk → String
  | rsa key => key.kty
  | ec key => key.kty

/-- The curve that a published key names. -/
def Jwk.crv? : Jwk → Option String
  | rsa _ => none
  | ec key => some key.crv

namespace KeyPair

/-- Nothing that looks at the algorithm and at the material of a pair finds them apart. -/
structure Consistent (pair : KeyPair) : Prop where
  fits : pair.material.kind = pair.algorithm.kind
  derived : pair.material.derived? = some pair.publicKey
  signs : ∀ message fresh,
    pair.sign message fresh = pair.material.signAs pair.algorithm message fresh ∧
      ∀ other, pair.sign message fresh ≠ .error (.foreignMaterial other)
  encodes : ∀ kid, ∃ key, Jwk.encode kid pair = .ok key ∧
    key.alg = pair.algorithm.name ∧
    key.kty = pair.algorithm.kind.kty ∧
    key.crv? = pair.algorithm.kind.crv?
  bare : (∃ other, pair.rsaPrivateBytes = .error (.foreignMaterial other)) ↔
    pair.algorithm.kind ≠ .rsa

theorem sign_ec
    {algorithm : Algorithm} {curve : Curve} {key : Elliptic.PrivateKey curve}
    (fits : (Material.ec curve key).kind = algorithm.kind)
    (message fresh : Bytes) :
    sign ⟨algorithm, .ec curve key, fits⟩ message fresh
      = key.signature curve algorithm.digest message fresh := by
  cases hsign : Elliptic.sign? curve algorithm.digest key message fresh with
  | none => simp only [sign, Elliptic.PrivateKey.signature, hsign]
  | some signature => simp only [sign, Elliptic.PrivateKey.signature, hsign]

theorem sign_eq_signAs
    (pair : KeyPair) (message fresh : Bytes) :
    pair.sign message fresh = pair.material.signAs pair.algorithm message fresh := by
  obtain ⟨algorithm, material, fits⟩ := pair
  cases material with
  | rsa key consistent publishable =>
      rcases Algorithm.kind_eq_rsa_iff.mp fits.symm with rfl | rfl | rfl <;> rfl
  | ec curve key =>
      obtain rfl := Algorithm.kind_eq_ec_iff.mp fits.symm
      rw [Material.signAs_ec, sign_ec]

/-- A published key names the algorithm of its pair, and the kind and curve of the algorithm. -/
theorem registry_jwk
    (kid : String) (pair : KeyPair) :
    (Jwk.ofPair kid pair).alg = pair.algorithm.name ∧
      (Jwk.ofPair kid pair).kty = pair.algorithm.kind.kty ∧
      (Jwk.ofPair kid pair).crv? = pair.algorithm.kind.crv? := by
  rw [← pair.fits]
  obtain ⟨algorithm, material, fits⟩ := pair
  cases material <;> exact ⟨rfl, rfl, rfl⟩

theorem rsaPrivateBytes_eq_foreign_iff
    (pair : KeyPair) :
    (∃ other, pair.rsaPrivateBytes = .error (.foreignMaterial other)) ↔
      pair.algorithm.kind ≠ .rsa := by
  rw [← pair.fits]
  obtain ⟨algorithm, material, fits⟩ := pair
  cases material with
  | rsa key consistent publishable =>
      refine iff_of_false ?_ (not_not.mpr rfl)
      rintro ⟨other, h⟩
      simp only [rsaPrivateBytes] at h
      split at h <;> cases h
  | ec curve key => exact iff_of_true ⟨algorithm, rfl⟩ (by rintro ⟨⟩)

/-- Every key pair is consistent. -/
theorem consistent
    (pair : KeyPair) :
    pair.Consistent where
  fits := pair.fits
  derived := by
    obtain ⟨algorithm, material, fits⟩ := pair
    cases material with
    | rsa key consistent publishable => rfl
    | ec curve key =>
        rw [Material.derived?, key.base?_scalar]
        rfl
  signs := by
    intro message fresh
    refine ⟨pair.sign_eq_signAs message fresh, ?_⟩
    rw [sign_eq_signAs]
    intro other h
    exact Material.signAs_eq_foreign_iff.mp ⟨other, h⟩ pair.fits
  encodes := fun kid => ⟨_, Jwk.encode_eq kid pair, pair.registry_jwk kid⟩
  bare := pair.rsaPrivateBytes_eq_foreign_iff

/-- A key pair comes from a private half and, unless it is an RSA key that stands alone, a public
half, and its material may have been tied to other algorithms since. -/
inductive Made : Bytes → Option Bytes → KeyPair → Prop
  | decoded {algorithm : Algorithm} {privateBytes publicBytes : Bytes} {pair : KeyPair}
      (h : decode algorithm privateBytes publicBytes = .ok pair) :
      Made privateBytes (some publicBytes) pair
  | alone {privateBytes : Bytes} {pair : KeyPair}
      (h : ofRsaPrivate privateBytes = .ok pair) :
      Made privateBytes none pair
  | tied {algorithm : Algorithm} {privateBytes : Bytes} {publicBytes : Option Bytes}
      {pair other : KeyPair}
      (hmade : Made privateBytes publicBytes pair)
      (h : ofParts algorithm pair.material = .ok other) :
      Made privateBytes publicBytes other

/-- Tying a pair anew keeps both halves. -/
theorem Made.holds
    {privateBytes : Bytes} {publicBytes : Option Bytes} {pair : KeyPair}
    (h : Made privateBytes publicBytes pair) :
    HoldsPrivate privateBytes pair.publicKey ∧
      ∀ shown, publicBytes = some shown → HoldsPublic shown pair.publicKey := by
  induction h with
  | decoded h =>
      obtain ⟨-, hheld, hpublic⟩ := decode_eq_ok_iff.mp h
      refine ⟨hheld.holdsPrivate, ?_⟩
      rintro shown ⟨rfl⟩
      exact hpublic
  | alone h =>
      exact ⟨(ofRsaPrivate_eq_ok_iff.mp h).2.holdsPrivate, by rintro shown ⟨⟩⟩
  | tied hmade h ih =>
      obtain ⟨-, hsame⟩ := ofParts_ok_iff.mp h
      rw [publicKey, hsame]
      exact ih

/-- A key pair that was decoded, with both halves or from an RSA key alone, and then tied to any
algorithms that took it, is consistent, and its public key belongs to the private key that was
decoded and is the one that was decoded with it.  Halves of different keys are taken under no
algorithm. -/
theorem pairing_consistent :
    (∀ privateBytes publicBytes pair, Made privateBytes publicBytes pair →
      pair.Consistent ∧
        HoldsPrivate privateBytes pair.publicKey ∧
        ∀ shown, publicBytes = some shown → HoldsPublic shown pair.publicKey) ∧
    ∀ privateBytes publicBytes key other,
      HoldsPrivate privateBytes key → HoldsPublic publicBytes other → key ≠ other →
        ∀ algorithm pair, decode algorithm privateBytes publicBytes ≠ .ok pair := by
  constructor
  · intro privateBytes publicBytes pair hmade
    exact ⟨pair.consistent, hmade.holds⟩
  · intro privateBytes publicBytes key other hprivate hpublic hne algorithm pair hdecode
    obtain ⟨-, hheld, hshown⟩ := decode_eq_ok_iff.mp hdecode
    exact hne ((hprivate.unique hheld.holdsPrivate).trans (hshown.unique hpublic))

/-- The least key pair, tied to another algorithm, and its private half with the public half of
another pair. -/
theorem least_pairing_consistent :
    ∃ bytes tied, Made bytes (some least.publicBytes) tied ∧ tied.algorithm = .rs512 ∧
      tied.Consistent ∧
      ∀ algorithm pair, decode algorithm bytes small.publicBytes ≠ .ok pair := by
  obtain ⟨bytes, hbytes⟩ := privateBytes_least
  obtain ⟨smallBytes, hsmall⟩ := privateBytes_small
  have hmade := Made.decoded (decode_privateBytes hbytes)
  have htied : Made bytes (some least.publicBytes) ⟨.rs512, least.material, rfl⟩ :=
    .tied hmade (ofParts_ok_iff.mpr ⟨rfl, rfl⟩)
  obtain ⟨hmadeConsistent, hmismatched⟩ := pairing_consistent
  refine ⟨bytes, _, htied, rfl, (hmadeConsistent _ _ _ htied).1, ?_⟩
  have hpublic := (decode_eq_ok_iff.mp (decode_privateBytes hsmall)).2.2
  exact hmismatched _ _ _ _ hmade.holds.1 hpublic (by decide)

end KeyPair
end WorkloadIdentity
