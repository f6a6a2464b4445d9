import WorkloadIdentity.MasterKey
import WorkloadIdentity.Proofs.Text.Spellings

/-!
# What is read under a master key is what was written under it

Decrypting undoes encrypting, whatever nonce was drawn, and reads nothing else: a secret that is
read is the one that encrypting its text gives where the secret's own nonce is drawn.  So a nonce
and a text have one secret, a secret has one spelling, and every other text is refused as a secret
that cannot be decrypted.

* `MasterKey.encryptsTo_iff`: what encrypting gives where a nonce is drawn.
* `MasterKey.decrypt_exact`: which secrets are read, and what becomes of all others.
-/

namespace WorkloadIdentity

/-- A supply that begins with given bytes. -/
def Entropy.ofBytes (bytes : Bytes) : Entropy :=
  ⟨fun index => bytes.getD index 0, 0⟩

theorem Entropy.draw_ofBytes
    (bytes : Bytes) :
    ((ofBytes bytes).draw bytes.length).1 = bytes := by
  refine List.ext_getElem (length_draw _ _) ?_
  intro index _ hindex
  simp [draw, ofBytes, hindex]

namespace MasterKey

/-- Where a nonce is drawn, a text is encrypted to a secret. -/
def EncryptsTo
    (key : MasterKey)
    (nonce : Bytes)
    (text secret : String) : Prop :=
  ∃ entropy, (entropy.draw Gcm.nonceSize).1 = nonce ∧
    ((key.encrypt text).run entropy).1 = secret

variable {key : MasterKey} {nonce : Bytes} {text other secret : String}

/-- Every nonce of the right size can be drawn, and the secret depends on nothing else that is. -/
theorem encryptsTo_iff :
    key.EncryptsTo nonce text secret ↔
      nonce.length = Gcm.nonceSize ∧ key.encryptWith nonce text = secret := by
  constructor
  · rintro ⟨entropy, rfl, rfl⟩
    exact ⟨Entropy.length_draw _ _, rfl⟩
  · rintro ⟨hlength, rfl⟩
    have hdraw := Entropy.draw_ofBytes nonce
    rw [hlength] at hdraw
    refine ⟨.ofBytes nonce, hdraw, ?_⟩
    show key.encryptWith ((Entropy.ofBytes nonce).draw Gcm.nonceSize).1 text = _
    rw [hdraw]

theorem decrypt_eq_ok_iff :
    key.decrypt secret = .ok text ↔ ∃ nonce, key.EncryptsTo nonce text secret := by
  constructor
  · intro h
    obtain ⟨nonce, hlength, hsecret⟩ := eq_encryptWith_of_decrypt h
    exact ⟨nonce, encryptsTo_iff.mpr ⟨hlength, hsecret.symm⟩⟩
  · rintro ⟨nonce, h⟩
    obtain ⟨hlength, rfl⟩ := encryptsTo_iff.mp h
    exact decrypt_encryptWith key hlength text

/-- Whatever goes wrong, it is the secret that cannot be decrypted. -/
theorem exists_secretFault
    {fault : KeyFault}
    (h : key.decrypt secret = .error fault) :
    ∃ cause, fault = .secret cause := by
  simp only [decrypt] at h
  split at h
  · cases h
    exact ⟨.encoding, rfl⟩
  · split at h
    · cases h
      exact ⟨.short, rfl⟩
    · split at h
      · cases h
        exact ⟨.unauthentic, rfl⟩
      · split at h
        · cases h
          exact ⟨.notText, rfl⟩
        · cases h

/-- The nonce that a secret begins with. -/
def nonce? (secret : String) : Option Bytes :=
  (Base64.decode .standard secret).map (List.take Gcm.nonceSize)

theorem EncryptsTo.nonce?_eq
    (h : key.EncryptsTo nonce text secret) :
    nonce? secret = some nonce := by
  obtain ⟨hlength, rfl⟩ := encryptsTo_iff.mp h
  rw [nonce?, encryptWith, Base64.decode_encode, Option.map_some, List.take_left' hlength]

theorem EncryptsTo.unique
    {another : String}
    (h : key.EncryptsTo nonce text secret)
    (hanother : key.EncryptsTo nonce text another) :
    secret = another :=
  (encryptsTo_iff.mp h).2.symm.trans (encryptsTo_iff.mp hanother).2

theorem decrypt_of_decode
    (h : Base64.decode .standard secret = none) :
    key.decrypt secret = .error (.secret .encoding) := by
  simp only [decrypt, h]

/-- A secret that is read is spelled in base64. -/
theorem exists_decode_of_decrypt
    (h : key.decrypt secret = .ok text) :
    ∃ bytes, Base64.decode .standard secret = some bytes := by
  cases hdecode : Base64.decode .standard secret with
  | none =>
      rw [decrypt_of_decode hdecode] at h
      cases h
  | some bytes => exact ⟨bytes, rfl⟩

/-- A secret is read as a text exactly if encrypting the text gives this very secret where some
nonce of twelve bytes is drawn.  So a text is read back whatever is drawn; of two secrets with the
same nonce only one is read as the text; a secret that is read has no other spelling that is; and
all that encrypting does not give is refused as a secret that cannot be decrypted. -/
theorem decrypt_exact
    (key : MasterKey) :
    (∀ secret text, key.decrypt secret = .ok text ↔
        ∃ nonce, nonce.length = 12 ∧ key.EncryptsTo nonce text secret) ∧
      (∀ text entropy, key.decrypt ((key.encrypt text).run entropy).1 = .ok text) ∧
      (∀ secret another text, key.decrypt secret = .ok text → key.decrypt another = .ok text →
        nonce? secret = nonce? another → secret = another) ∧
      (∀ secret other text, key.decrypt secret = .ok text →
        Base64.loose other = Base64.loose secret → other ≠ secret →
        key.decrypt other = .error (.secret .encoding)) ∧
      ∀ secret, (∀ nonce text, ¬ key.EncryptsTo nonce text secret) →
        ∃ cause, key.decrypt secret = .error (.secret cause) := by
  refine ⟨?_, ?_, ?_, ?_, ?_⟩
  · intro secret text
    rw [decrypt_eq_ok_iff]
    constructor
    · rintro ⟨nonce, h⟩
      exact ⟨nonce, (encryptsTo_iff.mp h).1, h⟩
    · rintro ⟨nonce, -, h⟩
      exact ⟨nonce, h⟩
  · intro text entropy
    exact decrypt_eq_ok_iff.mpr ⟨_, entropy, rfl, rfl⟩
  · intro secret another text hsecret hanother hnonce
    obtain ⟨nonce, hgives⟩ := decrypt_eq_ok_iff.mp hsecret
    obtain ⟨drawn, hdrawn⟩ := decrypt_eq_ok_iff.mp hanother
    rw [hgives.nonce?_eq, hdrawn.nonce?_eq, Option.some.injEq] at hnonce
    subst hnonce
    exact hgives.unique hdrawn
  · intro secret other text hsecret hloose hne
    obtain ⟨bytes, hbytes⟩ := exists_decode_of_decrypt hsecret
    exact decrypt_of_decode (Base64.decode_eq_none_of_loose hbytes hloose hne)
  · intro secret hnot
    cases hsecret : key.decrypt secret with
    | ok text =>
        obtain ⟨nonce, hgives⟩ := decrypt_eq_ok_iff.mp hsecret
        exact absurd hgives (hnot nonce text)
    | error fault =>
        obtain ⟨cause, rfl⟩ := exists_secretFault hsecret
        exact ⟨cause, rfl⟩

end MasterKey
end WorkloadIdentity
