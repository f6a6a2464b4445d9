import WorkloadIdentity.Proofs.Key.Signatures
import WorkloadIdentity.Proofs.Rsa.Correctness
import WorkloadIdentity.Token

/-!
# Which keys sign tokens

An RSA key signs tokens if it has a bare encoding, keeps the limits and leads every hash back.  The
first asks for coprime factors, and primes give the last; so a key whose factors are prime signs
exactly if they differ and the limits are kept.  Of the check of the keys only this is used: it has
nothing against a key exactly where the key keeps the limits.  A key on a curve signs if one of the secret numbers
that are tried is of use.

* `Rsa.PrivateKey.encode?_isSome_iff`: which RSA keys have a bare encoding.
* `Elliptic.sign?_eq_none_iff`: when no secret number is of use.
* `Token.signature_eq_error_iff`: why a credential signs no token.
* `Token.signature_of_primes`: the keys with prime factors that sign.
-/

namespace WorkloadIdentity

namespace Der

/-- A row of numbers of a given width is not longer than so many contents and their heads. -/
theorem length_encodeAll_natural_le
    {width : Nat} {numbers : List Nat}
    (hwidth : 0 < width)
    (hshort : width + 1 < maxLength)
    (h : ∀ n ∈ numbers, n < Nat.pow 256 width) :
    (encodeAll (numbers.map natural)).length ≤ numbers.length * (width + 7) := by
  induction numbers with
  | nil => simp
  | cons n numbers ih =>
      obtain ⟨hn, hnumbers⟩ := List.forall_mem_cons.mp h
      have hcontent : (natural n).content.length ≤ width + 1 := length_naturalContent_le hwidth hn
      have helement := @length_encode_le (natural n) (by omega)
      have hrest := ih hnumbers
      rw [List.map_cons, encodeAll_cons, List.length_append, List.length_cons, Nat.succ_mul]
      omega

/-- So is a sequence of such numbers, which can therefore stand in an element. -/
theorem bounded?_sequence_natural
    {width : Nat} {numbers : List Nat}
    (hwidth : 0 < width)
    (hshort : numbers.length * (width + 7) + width + 7 < maxLength)
    (h : ∀ n ∈ numbers, n < Nat.pow 256 width) :
    (bounded? (sequence (numbers.map natural)).encode).isSome := by
  have hcontent : (sequence (numbers.map natural)).content.length ≤ numbers.length * (width + 7) :=
    length_encodeAll_natural_le hwidth (by omega) h
  have hlength := @length_encode_le (sequence (numbers.map natural)) (by omega)
  have hbounded : (sequence (numbers.map natural)).encode.length < maxLength := by omega
  rw [bounded?_eq_some_iff.mpr ⟨rfl, hbounded⟩]
  rfl

end Der

namespace Rsa.PrivateKey

variable {key : PrivateKey}

/-- The numbers in the bare encoding of a key. -/
def numbers (key : PrivateKey) (coefficient : Nat) : List Nat :=
  [0, key.modulus, key.exponent, key.privateExponent, key.prime1, key.prime2,
    key.privateExponent % (key.prime1 - 1), key.privateExponent % (key.prime2 - 1), coefficient]

theorem encode?_eq
    (key : PrivateKey) :
    key.encode? = key.coefficient?.bind fun coefficient =>
      Der.bounded? (Der.sequence ((key.numbers coefficient).map Der.natural)).encode := by
  rfl

/-- None of them is above the modulus, unless the private exponent is. -/
theorem le_modulus_of_mem_numbers
    {coefficient : Nat}
    (h : key.Consistent)
    (hprivate : key.privateExponent < key.modulus)
    (hcoefficient : coefficient < key.prime1) :
    ∀ n ∈ key.numbers coefficient, n ≤ key.modulus := by
  obtain ⟨hsound, hone, htwo, hproduct, -⟩ := h
  have hprime1 : key.prime1 ≤ key.modulus :=
    hproduct ▸ Nat.le_mul_of_pos_right _ (Nat.lt_of_succ_lt htwo)
  have hprime2 : key.prime2 ≤ key.modulus :=
    hproduct ▸ Nat.le_mul_of_pos_left _ (Nat.lt_of_succ_lt hone)
  have hexponent : key.exponent ≤ key.modulus := hsound.2.2.1.le
  have hfirst := Nat.mod_le key.privateExponent (key.prime1 - 1)
  have hsecond := Nat.mod_le key.privateExponent (key.prime2 - 1)
  simp only [numbers, List.forall_mem_cons, List.not_mem_nil, false_implies, implies_true,
    and_true]
  refine ⟨?_, ?_, ?_, ?_, ?_, ?_, ?_, ?_, ?_⟩ <;> omega

/-- A key with a bare encoding has coprime factors. -/
theorem coprime_of_encode?
    (h : key.Consistent)
    (hencoding : key.encode?.isSome) :
    key.prime1.Coprime key.prime2 := by
  rw [← coefficient?_isSome_iff h]
  cases hcoefficient : key.coefficient? with
  | none => simp [encode?, hcoefficient] at hencoding
  | some coefficient => rfl

/-- A key whose private exponent is below the modulus has a bare encoding exactly if its factors
are coprime. -/
theorem encode?_isSome_iff
    (h : key.Consistent)
    (hpublishable : key.publicKey.Publishable)
    (hprivate : key.privateExponent < key.modulus) :
    key.encode?.isSome ↔ key.prime1.Coprime key.prime2 := by
  rw [← coefficient?_isSome_iff h]
  cases hcoefficient : key.coefficient? with
  | none => simp [encode?, hcoefficient]
  | some coefficient =>
      -- nine numbers of at most 513 bytes are far below the longest content
      have hbits : key.publicKey.bits ≤ 4096 := hpublishable.2
      obtain ⟨width, hpos, hwidth, hmodulus⟩ :
          ∃ width, 0 < width ∧ width ≤ 513 ∧ key.publicKey.modulus < Nat.pow 256 width :=
        ⟨key.publicKey.bits / 8 + 1, by omega, by omega, PublicKey.modulus_lt (by omega)⟩
      have hsmall := le_modulus_of_mem_numbers h hprivate (Modular.inverse?_lt hcoefficient)
      have hlong : (key.numbers coefficient).length * (width + 7) + width + 7 < Der.maxLength := by
        have hlength : (key.numbers coefficient).length = 9 := rfl
        rw [hlength, Der.maxLength]
        omega
      have hsome := Der.bounded?_sequence_natural hpos hlong
        fun n hn => (hsmall n hn).trans_lt hmodulus
      rw [encode?_eq, hcoefficient, Option.bind_some]
      exact iff_of_true hsome rfl

/-- The limits within which an RSA key signs tokens. -/
structure KeepsLimits (key : PrivateKey) : Prop where
  /-- The length of the modulus counts in whole bytes. -/
  modulus_long : 2048 ≤ 8 * key.publicKey.size
  exponent_large : 65537 ≤ key.exponent
  /-- Each factor is half as long as the modulus. -/
  halves : bitLength key.prime1 = (key.publicKey.bits + 1) / 2 ∧
    bitLength key.prime2 = (key.publicKey.bits + 1) / 2
  even : (key.publicKey.bits + 1) / 2 % 512 = 0
  private_long : (key.publicKey.bits + 1) / 2 < bitLength key.privateExponent
  private_lt : key.privateExponent < key.modulus

theorem limit?_eq_none_iff :
    key.limit? = none ↔ key.KeepsLimits := by
  simp only [limit?, ite_eq_iff, reduceCtorEq, and_false, false_or, not_or, Nat.not_lt, Nat.not_le,
    Decidable.not_not, and_true]
  constructor
  · rintro ⟨⟨hlong, hlarge⟩, hhalves, heven, hprivateLong, hprivateLt⟩
    exact ⟨hlong, hlarge, hhalves, heven, hprivateLong, hprivateLt⟩
  · rintro ⟨hlong, hlarge, hhalves, heven, hprivateLong, hprivateLt⟩
    exact ⟨⟨hlong, hlarge⟩, hhalves, heven, hprivateLong, hprivateLt⟩

/-- A modulus within the limits has 2047 bits or more, since only then its half is a multiple of
512 bits. -/
theorem KeepsLimits.bits_le
    (h : key.KeepsLimits) :
    2047 ≤ key.publicKey.bits := by
  have hlong := h.modulus_long
  have heven := h.even
  rw [PublicKey.size] at hlong
  omega

/-- So it is long enough for every hash. -/
theorem KeepsLimits.size_le
    (h : key.KeepsLimits) :
    94 ≤ key.publicKey.size := by
  have hbits := h.bits_le
  rw [PublicKey.size]
  omega

end Rsa.PrivateKey

namespace Rsa.KeyCheck

variable {check : KeyCheck} {key : PrivateKey}

/-- A check is as documented if it has nothing against a key exactly where the key keeps the limits.
Only keys with a bare encoding are checked. -/
def Documented (check : KeyCheck) : Prop :=
  ∀ key : PrivateKey, key.Consistent → key.publicKey.Publishable → key.encode?.isSome →
    (check key = none ↔ key.KeepsLimits)

theorem limit?_documented :
    Documented PrivateKey.limit? :=
  fun _ _ _ _ => PrivateKey.limit?_eq_none_iff

theorem Documented.exists_name
    (h : check.Documented)
    (hconsistent : key.Consistent)
    (hpublishable : key.publicKey.Publishable)
    (hencoding : key.encode?.isSome)
    (hlimits : ¬ key.KeepsLimits) :
    ∃ name, check key = some name := by
  rw [← h key hconsistent hpublishable hencoding] at hlimits
  exact Option.ne_none_iff_exists'.mp hlimits

end Rsa.KeyCheck

namespace Elliptic

variable {curve : Curve} {digest : Digest} {key : PrivateKey curve} {hash : Bytes}

/-- The numbers that a generator gives within a number of tries. -/
def secrets (curve : Curve) (digest : Digest) : (tries : Nat) → Generator → List Nat
  | 0, _ => []
  | tries + 1, g =>
      let (bytes, g) := g.draw digest curve.width
      truncate curve bytes :: secrets curve digest tries (g.update digest [])

/-- No signature is made with a secret number: it is out of range, or one of the two numbers of the
signature would be zero. -/
def Useless
    (curve : Curve)
    (key : PrivateKey curve)
    (hash : Bytes)
    (secret : Nat) : Prop :=
  0 < secret → secret < curve.order → signWith? curve key hash secret = none

/-- Every secret number is tried until one is of use. -/
theorem signFrom?_eq_none_iff
    {tries : Nat} {generator : Generator} :
    signFrom? curve digest key hash tries generator = none ↔
      ∀ secret ∈ secrets curve digest tries generator, Useless curve key hash secret := by
  induction tries generalizing generator with
  | zero => simp [signFrom?, secrets]
  | succ tries ih =>
      simp only [signFrom?, secrets, List.forall_mem_cons]
      split
      · next signature hfound =>
        split at hfound
        · next hrange =>
          constructor
          · intro hnone
            cases hnone
          · rintro ⟨huseless, -⟩
            rw [huseless hrange.1 hrange.2] at hfound
            cases hfound
        · cases hfound
      · next hfound =>
        rw [ih, iff_and_self]
        intro _ hpos hlt
        rwa [if_pos ⟨hpos, hlt⟩] at hfound

/-- The secret numbers that are tried for a message. -/
def secretsFor
    (curve : Curve)
    (digest : Digest)
    (key : PrivateKey curve)
    (message fresh : Bytes) : List Nat :=
  secrets curve digest maxTries
    (Generator.start curve digest key.scalar (digest.hash message) fresh)

theorem sign?_eq_none_iff
    {message fresh : Bytes} :
    sign? curve digest key message fresh = none ↔
      ∀ secret ∈ secretsFor curve digest key message fresh,
        Useless curve key (digest.hash message) secret :=
  signFrom?_eq_none_iff

end Elliptic

namespace Token

variable {check : Rsa.KeyCheck} {credential : Credential} {message fresh : Bytes}
  {fault : TokenFault}

/-- Of a credential only the id and the key pair have a part in what is signed. -/
theorem signedText_eq_of_pair
    {other : Credential}
    (hid : credential.id = other.id)
    (hpair : credential.pair = other.pair)
    (claims : Claims) :
    signedText credential claims = signedText other claims := by
  simp only [signedText, header, Credential.algorithm, hid, hpair]

/-- In the signature only the key pair has one. -/
theorem signature_eq_of_pair
    {other : Credential}
    (hpair : credential.pair = other.pair)
    (message fresh : Bytes) :
    signature credential message fresh = signature other message fresh := by
  simp only [signature, hpair]

/-- Why a credential signs no token. -/
inductive Refuses
    (check : Rsa.KeyCheck)
    (credential : Credential)
    (message fresh : Bytes) : TokenFault → Prop
  | unencodable {key : Rsa.PrivateKey} {consistent : key.Consistent}
      {publishable : key.publicKey.Publishable}
      (hmaterial : credential.pair.material = .rsa key consistent publishable)
      (hencoding : key.encode? = none) :
      Refuses check credential message fresh (.key .unencodable)
  | limit {key : Rsa.PrivateKey} {consistent : key.Consistent}
      {publishable : key.publicKey.Publishable} {name : String}
      (hmaterial : credential.pair.material = .rsa key consistent publishable)
      (hencoding : key.encode?.isSome)
      (hlimits : ¬ key.KeepsLimits)
      (hname : check key = some name) :
      Refuses check credential message fresh (.limit name)
  | unsound {key : Rsa.PrivateKey} {consistent : key.Consistent}
      {publishable : key.publicKey.Publishable}
      (hmaterial : credential.pair.material = .rsa key consistent publishable)
      (hencoding : key.encode?.isSome)
      (hlimits : key.KeepsLimits)
      (hreturns : ¬ key.Returns credential.pair.algorithm.digest message) :
      Refuses check credential message fresh .signing
  | useless {curve : Curve} {key : Elliptic.PrivateKey curve}
      (hmaterial : credential.pair.material = .ec curve key)
      (hsecrets : ∀ secret ∈ Elliptic.secretsFor curve credential.pair.algorithm.digest key message
        fresh, Elliptic.Useless curve key (credential.pair.algorithm.digest.hash message) secret) :
      Refuses check credential message fresh (.key .noSecretNumber)

/-- The signature of an RSA key that passes the check is its token's, whatever was drawn. -/
theorem signature_of_rsa
    {key : Rsa.PrivateKey} {consistent : key.Consistent} {publishable : key.publicKey.Publishable}
    {bytes signed : Bytes}
    (hmaterial : credential.pair.material = .rsa key consistent publishable)
    (hbytes : key.encode? = some bytes)
    (hpasses : check key = none)
    (hsigned : Rsa.sign credential.pair.algorithm.digest key message = .ok signed)
    (fresh : Bytes) :
    signature credential message fresh check = .ok signed := by
  simp only [signature, KeyPair.rsaPrivateBytes, KeyPair.sign, hmaterial, hbytes, hpasses, hsigned,
    Except.mapError]

/-- For each of these reasons no token is signed. -/
theorem Refuses.signature_eq
    (hcheck : check.Documented)
    (h : Refuses check credential message fresh fault) :
    signature credential message fresh check = .error fault := by
  cases h with
  | unencodable hmaterial hencoding =>
      simp only [signature, KeyPair.rsaPrivateBytes, hmaterial, hencoding]
  | limit hmaterial hencoding _ hname =>
      obtain ⟨bytes, hbytes⟩ := Option.isSome_iff_exists.mp hencoding
      simp only [signature, KeyPair.rsaPrivateBytes, hmaterial, hbytes, hname]
  | @unsound key consistent publishable hmaterial hencoding hlimits hreturns =>
      obtain ⟨bytes, hbytes⟩ := Option.isSome_iff_exists.mp hencoding
      have hcoprime := Rsa.PrivateKey.coprime_of_encode? consistent hencoding
      have hpasses := (hcheck key consistent publishable hencoding).mpr hlimits
      cases hsign : Rsa.sign credential.pair.algorithm.digest key message with
      | error fault =>
          simp only [signature, KeyPair.rsaPrivateBytes, KeyPair.sign, hmaterial, hbytes, hpasses,
            hsign, Except.mapError]
      | ok signed =>
          exact absurd ((Rsa.sign_succeeds_iff consistent hcoprime).mp ⟨signed, hsign⟩) hreturns
  | useless hmaterial hsecrets =>
      simp only [signature, KeyPair.sign, hmaterial, Elliptic.sign?_eq_none_iff.mpr hsecrets]
      rfl

/-- There are no other reasons. -/
theorem refuses_or_signs
    (hcheck : check.Documented)
    (credential : Credential) (message fresh : Bytes) :
    (∃ fault, Refuses check credential message fresh fault) ∨
      ∃ signed, signature credential message fresh check = .ok signed := by
  cases hmaterial : credential.pair.material with
  | rsa key consistent publishable =>
      cases hbytes : key.encode? with
      | none => exact Or.inl ⟨_, .unencodable hmaterial hbytes⟩
      | some bytes =>
          have hencoding := Option.isSome_of_eq_some hbytes
          by_cases hlimits : key.KeepsLimits
          · by_cases hreturns : key.Returns credential.pair.algorithm.digest message
            · right
              have hpasses := (hcheck key consistent publishable hencoding).mpr hlimits
              have hcoprime := Rsa.PrivateKey.coprime_of_encode? consistent hencoding
              obtain ⟨signed, hsign⟩ := (Rsa.sign_succeeds_iff consistent hcoprime).mpr hreturns
              exact ⟨signed, signature_of_rsa hmaterial hbytes hpasses hsign fresh⟩
            · exact Or.inl ⟨_, .unsound hmaterial hencoding hlimits hreturns⟩
          · obtain ⟨name, hname⟩ := hcheck.exists_name consistent publishable hencoding hlimits
            exact Or.inl ⟨_, .limit hmaterial hencoding hlimits hname⟩
  | ec curve key =>
      cases hsign : Elliptic.sign? curve credential.pair.algorithm.digest key message fresh with
      | none => exact Or.inl ⟨_, .useless hmaterial (Elliptic.sign?_eq_none_iff.mp hsign)⟩
      | some signed =>
          right
          simp only [signature, KeyPair.sign, hmaterial, hsign]
          exact ⟨signed, rfl⟩

/-- A credential signs no token exactly for one of these reasons. -/
theorem signature_eq_error_iff
    (hcheck : check.Documented) :
    signature credential message fresh check = .error fault ↔
      Refuses check credential message fresh fault := by
  constructor
  · intro h
    rcases refuses_or_signs hcheck credential message fresh with
      ⟨other, hother⟩ | ⟨signed, hsigned⟩
    · cases (hother.signature_eq hcheck).symm.trans h
      exact hother
    · cases hsigned.symm.trans h
  · exact Refuses.signature_eq hcheck

/-- A key whose factors are prime signs exactly if they differ and the limits are kept. -/
theorem signature_of_primes
    {key : Rsa.PrivateKey} {consistent : key.Consistent} {publishable : key.publicKey.Publishable}
    (hcheck : check.Documented)
    (hmaterial : credential.pair.material = .rsa key consistent publishable)
    (hprime1 : key.prime1.Prime)
    (hprime2 : key.prime2.Prime) :
    (∃ signed, signature credential message fresh check = .ok signed) ↔
      key.prime1 ≠ key.prime2 ∧ key.KeepsLimits := by
  rw [← Nat.coprime_primes hprime1 hprime2]
  constructor
  · rintro ⟨signed, hsigned⟩
    have hnot (fault : TokenFault) : ¬ Refuses check credential message fresh fault := by
      intro hrefuses
      cases (hrefuses.signature_eq hcheck).symm.trans hsigned
    cases hencoding : key.encode? with
    | none => exact absurd (.unencodable hmaterial hencoding) (hnot _)
    | some bytes =>
        have hsome := Option.isSome_of_eq_some hencoding
        by_cases hlimits : key.KeepsLimits
        · exact ⟨Rsa.PrivateKey.coprime_of_encode? consistent hsome, hlimits⟩
        · obtain ⟨name, hname⟩ := hcheck.exists_name consistent publishable hsome hlimits
          exact absurd (.limit hmaterial hsome hlimits hname) (hnot _)
  · rintro ⟨hcoprime, hlimits⟩
    rcases refuses_or_signs hcheck credential message fresh with ⟨fault, hrefuses⟩ | hsigns
    · cases hrefuses with
      | unencodable hother hencoding =>
          cases hmaterial.symm.trans hother
          have hsome := (Rsa.PrivateKey.encode?_isSome_iff consistent publishable
            hlimits.private_lt).mpr hcoprime
          rw [hencoding] at hsome
          cases hsome
      | limit hother _ hbroken =>
          cases hmaterial.symm.trans hother
          exact absurd hlimits hbroken
      | unsound hother _ _ hreturns =>
          cases hmaterial.symm.trans hother
          exact absurd (Rsa.PrivateKey.returns_of_primes consistent hprime1 hprime2
            ((Nat.coprime_primes hprime1 hprime2).mp hcoprime) hlimits.size_le) hreturns
      | useless hother => cases hmaterial.symm.trans hother
    · exact hsigns

end Token
end WorkloadIdentity
