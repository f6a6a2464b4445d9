import WorkloadIdentity.Proofs.Key.Pairing

/-!
# Each half of a key pair tells its kind

The envelope of either half names the kind of key inside.  So the private half alone settles which
algorithms take a pair, and what material they all read from it; the public half is only compared
with it.  For the same reason an RSA private key that stands alone gives the pair that it gives
together with its public half, and there is a public half for every key that may stand alone.

* `KeyPair.decode_of_other_kind`: an algorithm of another kind refuses the private half.
* `KeyPair.kinds_told_apart`: no bytes are taken for keys of two kinds.
* `KeyPair.alone_agrees`: a private key alone and both halves give the same pair.
-/

namespace WorkloadIdentity

/-- A private half of another kind is refused, whatever stands beside it. -/
theorem Material.decode_of_other_kind
    {material : Material} {kind : KeyKind} {privateBytes : Bytes}
    (hheld : material.HeldBy privateBytes)
    (hkind : kind ≠ material.kind)
    (publicBytes : Bytes) :
    decode kind privateBytes publicBytes = .error (.malformed kind .privateKey) := by
  cases kind with
  | rsa =>
      cases hopen : Rsa.PrivateKey.open? privateBytes with
      | none => simp only [decode, hopen]
      | some opened =>
          have hnamed := Rsa.PrivateKey.info_of_open? hopen
          exact absurd (KeyKind.eq_of_named hnamed hheld.info) hkind
  | ec curve =>
      cases hopen : Elliptic.PrivateKey.open? curve privateBytes with
      | none => simp only [decode, hopen]
      | some opened =>
          have hnamed := Elliptic.PrivateKey.info_of_open? hopen
          exact absurd (KeyKind.eq_of_named (a := .ec curve) hnamed hheld.info) hkind

namespace KeyPair

variable {algorithm another : Algorithm} {privateBytes publicBytes : Bytes} {pair other : KeyPair}

/-- An algorithm of another kind refuses the private half, whatever stands beside it. -/
theorem decode_of_other_kind
    (h : decode algorithm privateBytes publicBytes = .ok pair)
    (hkind : another.kind ≠ algorithm.kind)
    (shown : Bytes) :
    decode another privateBytes shown = .error (.malformed another.kind .privateKey) := by
  obtain ⟨rfl, hheld, -⟩ := decode_eq_ok_iff.mp h
  rw [← pair.fits] at hkind
  simp only [decode, Material.decode_of_other_kind hheld hkind shown, bind, Except.bind]

/-- An algorithm of another kind refuses the public half, whatever stands before it. -/
theorem decode_ne_of_other_kind
    (h : decode algorithm privateBytes publicBytes = .ok pair)
    (hkind : another.kind ≠ algorithm.kind)
    (hidden : Bytes) :
    decode another hidden publicBytes ≠ .ok other := by
  intro hother
  obtain ⟨rfl, -, hpublic⟩ := decode_eq_ok_iff.mp h
  obtain ⟨rfl, -, hotherPublic⟩ := decode_eq_ok_iff.mp hother
  have hsame := congrArg PublicKey.kind (hotherPublic.unique hpublic)
  rw [kind_publicKey, kind_publicKey] at hsame
  exact hkind hsame

/-- An algorithm of the same kind reads the same material from the two halves. -/
theorem decode_of_same_kind
    (h : decode algorithm privateBytes publicBytes = .ok pair)
    (hkind : another.kind = algorithm.kind) :
    ∃ other, decode another privateBytes publicBytes = .ok other ∧
      other.algorithm = another ∧ other.material = pair.material := by
  obtain ⟨rfl, hheld, hpublic⟩ := decode_eq_ok_iff.mp h
  refine ⟨⟨another, pair.material, pair.fits.trans hkind.symm⟩, ?_, rfl, rfl⟩
  exact decode_eq_ok_iff.mpr ⟨rfl, hheld, hpublic⟩

/-- The private half alone settles the material. -/
theorem material_eq_of_decode
    {shown : Bytes}
    (h : decode algorithm privateBytes publicBytes = .ok pair)
    (hother : decode another privateBytes shown = .ok other) :
    pair.material = other.material :=
  (decode_eq_ok_iff.mp h).2.1.unique (decode_eq_ok_iff.mp hother).2.1

end KeyPair

/-- A record that opens holds two halves that are decoded under the algorithm it names, and under
any other name it holds the same halves. -/
theorem SealedKeys.decrypt_renamed
    {master : MasterKey} {keys : SealedKeys} {pair : KeyPair}
    (h : keys.decrypt master = .ok pair) :
    ∃ privateBytes publicBytes,
      KeyPair.decode pair.algorithm privateBytes publicBytes = .ok pair ∧
      ∀ algorithm : Algorithm, { keys with algorithm := algorithm.name }.decrypt master
        = KeyPair.decode algorithm privateBytes publicBytes := by
  unfold decrypt at h
  split at h
  · cases h
  · next algorithm halgorithm =>
    obtain ⟨privateBytes, hprivate, h⟩ := exists_of_bind_ok h
    obtain ⟨publicBytes, hpublic, hdecode⟩ := exists_of_bind_ok h
    obtain ⟨rfl, -⟩ := KeyPair.decode_eq_ok_iff.mp hdecode
    refine ⟨privateBytes, publicBytes, hdecode, ?_⟩
    intro other
    simp only [decrypt, Algorithm.ofName?_name, hprivate, hpublic, bind, Except.bind]

namespace KeyPair

/-- Two halves are taken by algorithms of one kind only: by all algorithms of that kind, which read
the same private and public key from them, and by no other, which refuse each half by itself.  So a
record that is renamed for an algorithm of another kind does not open any more. -/
theorem kinds_told_apart :
    (∀ privateBytes publicBytes algorithm another pair other,
      decode algorithm privateBytes publicBytes = .ok pair →
        decode another privateBytes publicBytes = .ok other →
          algorithm.kind = another.kind ∧ pair.material = other.material ∧
            pair.publicKey = other.publicKey) ∧
    (∀ privateBytes publicBytes algorithm another pair,
      decode algorithm privateBytes publicBytes = .ok pair → another.kind = algorithm.kind →
        ∃ other, decode another privateBytes publicBytes = .ok other ∧
          other.algorithm = another ∧ other.material = pair.material) ∧
    (∀ privateBytes publicBytes algorithm another pair,
      decode algorithm privateBytes publicBytes = .ok pair → another.kind ≠ algorithm.kind →
        (∀ shown, decode another privateBytes shown
          = .error (.malformed another.kind .privateKey)) ∧
        ∀ hidden other, decode another hidden publicBytes ≠ .ok other) ∧
    ∀ (master : MasterKey) (keys : SealedKeys) (pair : KeyPair) (another : Algorithm),
      keys.decrypt master = .ok pair → another.kind ≠ pair.algorithm.kind →
        { keys with algorithm := another.name }.decrypt master
          = .error (.malformed another.kind .privateKey) := by
  refine ⟨?_, ?_, ?_, ?_⟩
  · intro privateBytes publicBytes algorithm another pair other h hother
    have hmaterial := material_eq_of_decode h hother
    refine ⟨?_, hmaterial, congrArg Material.publicKey hmaterial⟩
    rw [← (decode_eq_ok_iff.mp h).1, ← (decode_eq_ok_iff.mp hother).1, ← pair.fits, ← other.fits,
      hmaterial]
  · intro privateBytes publicBytes algorithm another pair h hkind
    exact decode_of_same_kind h hkind
  · intro privateBytes publicBytes algorithm another pair h hkind
    exact ⟨decode_of_other_kind h hkind, fun hidden other => decode_ne_of_other_kind h hkind hidden⟩
  · intro master keys pair another h hkind
    obtain ⟨privateBytes, publicBytes, hdecode, hrenamed⟩ := SealedKeys.decrypt_renamed h
    rw [hrenamed]
    exact decode_of_other_kind hdecode hkind publicBytes

/-- The least key pair under the two other algorithms of its kind, under one of another kind, and
in a record that is renamed. -/
theorem least_kinds_told_apart :
    ∃ (bytes : Bytes) (keys : SealedKeys) (tied : KeyPair),
      decode .rs256 bytes least.publicBytes = .ok least ∧
      decode .rs512 bytes least.publicBytes = .ok tied ∧ tied.material = least.material ∧
      decode .es256 bytes least.publicBytes = .error (.malformed (.ec .p256) .privateKey) ∧
      keys.decrypt .uniform = .ok least ∧
      { keys with algorithm := "ES256" }.decrypt .uniform
        = .error (.malformed (.ec .p256) .privateKey) := by
  obtain ⟨bytes, hbytes⟩ := privateBytes_least
  obtain ⟨keys, -, -, hkeys⟩ :=
    @toRecord_run_ok .uniform least ⟨fun _ => 0, 0⟩ bytes hbytes
  have hleast := decode_privateBytes hbytes
  obtain ⟨hsame, htaken, hrefused, hrenamed⟩ := kinds_told_apart
  obtain ⟨tied, htied, -, -⟩ := htaken _ _ _ .rs512 _ hleast rfl
  refine ⟨bytes, keys, tied, hleast, htied, ?_, ?_, hkeys, ?_⟩
  · exact (hsame _ _ _ _ _ _ hleast htied).2.1.symm
  · exact (hrefused _ _ _ .es256 _ hleast (by decide)).1 _
  · exact hrenamed _ _ _ .es256 hkeys (by decide)

end KeyPair

/-- The numbers of a public key stand behind the version in the private key of an envelope. -/
def Rsa.PublicKey.EmbeddedIn
    (key : Rsa.PublicKey)
    (envelope : Bytes) : Prop :=
  ∃ info elements rest,
    Der.PrivateKeyInfo.decode? envelope = some info ∧
      info.algorithm = Der.rsaAlgorithm ∧
      Der.sequence? info.key = some elements ∧
      elements.mapM Der.Element.natural? = some (0 :: key.modulus :: key.exponent :: rest)

/-- The public key of an opened private key is embedded in its envelope. -/
theorem Rsa.PrivateKey.embeddedIn_of_open?
    {envelope : Bytes} {opened : { key : Rsa.PrivateKey // key.Consistent }}
    (h : open? envelope = some opened) :
    opened.val.publicKey.EmbeddedIn envelope := by
  simp only [open?, Option.bind_eq_bind, Option.bind_eq_some_iff] at h
  obtain ⟨info, hinfo, h⟩ := h
  split at h
  · next halgorithm =>
    obtain ⟨key, hkey, h⟩ := Option.bind_eq_some_iff.mp h
    simp only [decode?, Option.bind_eq_bind, Option.bind_eq_some_iff] at hkey
    obtain ⟨elements, helements, numbers, hnumbers, hkey⟩ := hkey
    split at hkey
    · cases hkey
      split at h
      · cases h
        exact ⟨info, elements, _, hinfo, halgorithm, helements, hnumbers⟩
      · cases h
    · cases hkey
  · cases h

namespace KeyPair

variable {envelope : Bytes} {pair : KeyPair}

/-- The public key of an RSA pair is embedded in the envelope of its private half. -/
theorem embeddedIn_of_heldBy
    (hheld : pair.material.HeldBy envelope)
    (hkind : pair.algorithm.kind = .rsa) :
    ∃ key : Rsa.PublicKey, pair.publicKey = .rsa key ∧ key.EmbeddedIn envelope := by
  rw [← pair.fits] at hkind
  rw [publicKey]
  cases hmaterial : pair.material with
  | rsa key consistent publishable =>
      rw [hmaterial] at hheld
      cases hheld with
      | rsa _ hkey => exact ⟨key.publicKey, rfl, Rsa.PrivateKey.embeddedIn_of_open? hkey⟩
  | ec curve key =>
      rw [hmaterial] at hkind
      cases hkind

/-- Two halves under RS256 give the pair that the private half gives alone. -/
theorem ofRsaPrivate_of_decode
    {shown : Bytes}
    (h : decode .rs256 envelope shown = .ok pair) :
    ofRsaPrivate envelope = .ok pair := by
  obtain ⟨halgorithm, hheld, -⟩ := decode_eq_ok_iff.mp h
  exact ofRsaPrivate_eq_ok_iff.mpr ⟨halgorithm, hheld⟩

/-- A private RSA key alone gives a pair exactly if it gives one together with some public half,
and then it is the same pair.  The pair signs with RS256, its public key is the one embedded in the
private key, and its own public half is one that gives the pair. -/
theorem alone_agrees :
    (∀ envelope pair, ofRsaPrivate envelope = .ok pair →
      pair.algorithm = .rs256 ∧
        (∃ key : Rsa.PublicKey, pair.publicKey = .rsa key ∧ key.EmbeddedIn envelope) ∧
        decode .rs256 envelope pair.publicBytes = .ok pair ∧
        ∀ shown other, decode .rs256 envelope shown = .ok other → other = pair) ∧
    ∀ envelope shown pair, decode .rs256 envelope shown = .ok pair →
      ofRsaPrivate envelope = .ok pair := by
  refine ⟨?_, fun envelope shown pair h => ofRsaPrivate_of_decode h⟩
  intro envelope pair h
  obtain ⟨halgorithm, hheld⟩ := ofRsaPrivate_eq_ok_iff.mp h
  refine ⟨halgorithm, ?_, ?_, ?_⟩
  · exact embeddedIn_of_heldBy hheld (halgorithm ▸ rfl)
  · exact decode_eq_ok_iff.mpr ⟨halgorithm, hheld, pair.material.holdsPublic_encode⟩
  · intro shown other hother
    exact Except.ok.inj ((ofRsaPrivate_of_decode hother).symm.trans h)

/-- The least key pair, from its private half alone and from both halves. -/
theorem least_alone_agrees :
    ∃ bytes, ofRsaPrivate bytes = .ok least ∧
      (∃ key : Rsa.PublicKey, least.publicKey = .rsa key ∧ key.EmbeddedIn bytes) ∧
      decode .rs256 bytes least.publicBytes = .ok least := by
  obtain ⟨bytes, hbytes⟩ := privateBytes_least
  obtain ⟨halone, hboth⟩ := alone_agrees
  have hleast := hboth bytes least.publicBytes least (decode_privateBytes hbytes)
  obtain ⟨-, hembedded, hdecode, -⟩ := halone bytes least hleast
  exact ⟨bytes, hleast, hembedded, hdecode⟩

end KeyPair
end WorkloadIdentity
