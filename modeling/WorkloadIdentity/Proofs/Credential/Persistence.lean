import WorkloadIdentity.Proofs.Key.Sealing
import WorkloadIdentity.Proofs.Store.Documents

/-!
# Credentials are kept without loss

A credential that is made around a key pair and then given texts of its own stays well kept: its
record is opened by the master key and holds the pair, and none of its texts is empty.  A well-kept
credential is read back from its document, text by text and key by key, and nothing is drawn.

* `Credential.edited_wellKept`: every sequence of changes keeps a credential well kept.
* `Credential.restore_run_ok`: what a record that restores gives.
* `CredentialRecord.Opens.restore_run`: a record of the current shape restores without a change.
* `Credential.persists`: a credential is read back from its text as it was.
-/

namespace WorkloadIdentity

/-- A record gives a credential under the master key. -/
structure CredentialRecord.Opens
    (master : MasterKey)
    (record : CredentialRecord)
    (credential : Credential) : Prop where
  id_eq : credential.id = record.id
  description_eq : credential.description = Credential.unlessEmpty record.description
  issuer_eq : credential.issuer = Credential.unlessEmpty record.issuer
  audience_eq : credential.audience = Credential.unlessEmpty record.audience
  keys : record.keys.Opens master credential.record credential.pair

/-- The record that is kept for a credential: the one that it was restored from, unless that has
the legacy shape. -/
def CredentialRecord.renewed
    (record : CredentialRecord)
    (credential : Credential) : CredentialRecord :=
  if record.keys.isLegacy then credential.toRecord else record

namespace Credential

/-- The credential's record is opened by the master key, and none of its texts is empty. -/
structure WellKept
    (master : MasterKey)
    (credential : Credential) : Prop where
  decrypts : credential.record.decrypt master = .ok credential.pair
  description_ne : credential.description ≠ some ""
  issuer_ne : credential.issuer ≠ some ""
  audience_ne : credential.audience ≠ some ""

theorem unlessEmpty_ne
    (text : Option String) :
    unlessEmpty text ≠ some "" := by
  intro h
  simp [unlessEmpty, Option.filter_eq_some_iff] at h

theorem unlessEmpty_of_ne
    {text : Option String}
    (h : text ≠ some "") :
    unlessEmpty text = text := by
  cases text with
  | none => rfl
  | some text =>
      have hne : text ≠ "" := fun heq => h (congrArg some heq)
      simp [unlessEmpty, hne]

/-- The record of a well-kept credential gives the credential. -/
theorem WellKept.toRecord_opens
    {master : MasterKey} {credential : Credential}
    (h : credential.WellKept master) :
    credential.toRecord.Opens master credential where
  id_eq := rfl
  description_eq := (unlessEmpty_of_ne h.description_ne).symm
  issuer_eq := (unlessEmpty_of_ne h.issuer_ne).symm
  audience_eq := (unlessEmpty_of_ne h.audience_ne).symm
  keys := KeyRecord.opens_current h.decrypts

/-- A key pair that has an encoding can be kept under every id, with texts that are not empty. -/
theorem exists_wellKept
    {pair : KeyPair} {bytes : Bytes} {description issuer audience : Option String}
    (hpair : pair.privateBytes = .ok bytes)
    (hdescription : description ≠ some "")
    (hissuer : issuer ≠ some "")
    (haudience : audience ≠ some "")
    (master : MasterKey) (id : String) :
    ∃ keys, WellKept master ⟨id, description, issuer, audience, pair, keys⟩ := by
  obtain ⟨keys, -, -, hkeys⟩ := @KeyPair.toRecord_run_ok master pair ⟨fun _ => 0, 0⟩ bytes hpair
  exact ⟨keys, hkeys, hdescription, hissuer, haudience⟩

end Credential

namespace CredentialRecord

variable {master : MasterKey} {record : CredentialRecord} {credential : Credential}

theorem Opens.wellKept
    (h : record.Opens master credential) :
    credential.WellKept master where
  decrypts := h.keys.decrypts
  description_ne := h.description_eq ▸ Credential.unlessEmpty_ne record.description
  issuer_ne := h.issuer_eq ▸ Credential.unlessEmpty_ne record.issuer
  audience_ne := h.audience_eq ▸ Credential.unlessEmpty_ne record.audience

theorem renewed_of_current
    (h : record.keys.isLegacy = false) :
    record.renewed credential = record := by
  simp [renewed, h]

/-- The record that is kept gives the same credential. -/
theorem Opens.renewed
    (h : record.Opens master credential) :
    (record.renewed credential).Opens master credential := by
  unfold CredentialRecord.renewed
  split
  · exact h.wellKept.toRecord_opens
  · exact h

theorem Opens.id_renewed
    (h : record.Opens master credential) :
    (record.renewed credential).id = record.id :=
  h.renewed.id_eq.symm.trans h.id_eq

theorem isLegacy_renewed
    (record : CredentialRecord) (credential : Credential) :
    (record.renewed credential).keys.isLegacy = false := by
  unfold CredentialRecord.renewed
  split
  · rfl
  · next hcurrent => exact Bool.eq_false_iff.mpr hcurrent

/-- The record that is kept opens to the key pair of the credential. -/
theorem Opens.opened_renewed
    (h : record.Opens master credential) :
    (record.renewed credential).keys.opened master = .ok credential.pair :=
  h.renewed.keys.opened (isLegacy_renewed record credential)

/-- A record of the current shape restores to its credential, and nothing is drawn. -/
theorem Opens.restore_run
    (h : record.Opens master credential)
    (hcurrent : record.keys.isLegacy = false)
    (entropy : Entropy) :
    (Credential.restore master record).run entropy = (.ok (credential, false), entropy) := by
  rw [Credential.restore, Random.run_bind_of_run (h.keys.load_run hcurrent)]
  obtain ⟨id, description, issuer, audience, pair, keys⟩ := credential
  obtain ⟨rfl, rfl, rfl, rfl, -⟩ := h
  rfl

end CredentialRecord

namespace Credential

variable {master : MasterKey} {record : CredentialRecord} {credential : Credential}
  {entropy rest : Entropy}

/-- What a record that restores gives.  It counts as migrated exactly if it has the legacy shape,
and only then something is drawn. -/
theorem restore_run_ok
    {migrated : Bool}
    (h : (restore master record).run entropy = (.ok (credential, migrated), rest)) :
    record.Opens master credential ∧
      migrated = record.keys.isLegacy ∧
      (record.keys.isLegacy = false → rest = entropy) := by
  obtain ⟨outcome, after, hload⟩ : ∃ outcome after,
      (record.keys.load master).run entropy = (outcome, after) := ⟨_, _, rfl⟩
  rw [restore, Random.run_bind_of_run hload] at h
  cases outcome with
  | error fault => cases h
  | ok loaded =>
      cases h
      obtain ⟨hkeys, hmigrated, hrest⟩ := KeyRecord.load_run_ok hload
      exact ⟨⟨rfl, rfl, rfl, rfl, hkeys⟩, hmigrated, hrest⟩

/-- A record restores exactly if its keys open. -/
theorem restore_run
    (master : MasterKey) (record : CredentialRecord) (entropy : Entropy) :
    match record.keys.opened master with
    | .error fault => (restore master record).run entropy = (.error fault, entropy)
    | .ok pair => ∃ credential rest,
        (restore master record).run entropy = (.ok (credential, record.keys.isLegacy), rest) ∧
          credential.pair = pair := by
  have hload := KeyRecord.load_run master record.keys
  cases hopened : record.keys.opened master with
  | error fault =>
      simp only [hopened] at hload
      exact Random.run_bind_of_run (hload entropy)
  | ok pair =>
      simp only [hopened] at hload
      obtain ⟨kept, rest, hrun⟩ := hload entropy
      exact ⟨_, rest, Random.run_bind_of_run hrun, rfl⟩

/-- One of the texts of a credential is replaced. -/
inductive Edit
  | description (text : Option String)
  | issuer (text : Option String)
  | audience (text : Option String)
  deriving DecidableEq, Repr

/-- The credential with one text replaced. -/
def edit (credential : Credential) : Edit → Credential
  | .description text => credential.withDescription text
  | .issuer text => credential.withIssuer text
  | .audience text => credential.withAudience text

/-- The credential after a sequence of changes. -/
def edited (credential : Credential) (edits : List Edit) : Credential :=
  edits.foldl edit credential

/-- One change keeps a credential well kept. -/
theorem WellKept.edit
    (h : credential.WellKept master)
    (change : Edit) :
    (credential.edit change).WellKept master := by
  obtain ⟨hopens, hdescription, hissuer, haudience⟩ := h
  cases change with
  | description text => exact ⟨hopens, unlessEmpty_ne text, hissuer, haudience⟩
  | issuer text => exact ⟨hopens, hdescription, unlessEmpty_ne text, haudience⟩
  | audience text => exact ⟨hopens, hdescription, hissuer, unlessEmpty_ne text⟩

/-- So does every sequence of changes. -/
theorem edited_wellKept
    (h : credential.WellKept master)
    (edits : List Edit) :
    (credential.edited edits).WellKept master := by
  induction edits generalizing credential with
  | nil => exact h
  | cons change edits ih => exact ih (h.edit change)

/-- No change touches the id, the key pair or its encrypted form. -/
theorem edited_identity
    (credential : Credential)
    (edits : List Edit) :
    (credential.edited edits).id = credential.id ∧
      (credential.edited edits).pair = credential.pair ∧
      (credential.edited edits).record = credential.record := by
  induction edits generalizing credential with
  | nil => exact ⟨rfl, rfl, rfl⟩
  | cons change edits ih =>
      obtain ⟨hid, hpair, hrecord⟩ := ih (credential.edit change)
      cases change <;> exact ⟨hid, hpair, hrecord⟩

/-- A credential that is made around a key pair is well kept. -/
theorem ofPair_run_ok
    {id : String} {pair : KeyPair}
    (h : (ofPair master id pair).run entropy = (.ok credential, rest)) :
    credential.WellKept master ∧ credential.id = id ∧ credential.pair = pair := by
  obtain ⟨outcome, after, hrun⟩ : ∃ outcome after,
      (pair.toRecord master).run entropy = (outcome, after) := ⟨_, _, rfl⟩
  rw [ofPair, Random.run_bind_of_run hrun] at h
  cases outcome with
  | error fault => cases h
  | ok keys =>
      cases h
      refine ⟨⟨KeyPair.decrypt_of_toRecord hrun, ?_, ?_, ?_⟩, rfl, rfl⟩ <;>
        · intro htext
          cases htext

/-- A key pair that has an encoding makes a credential. -/
theorem ofPair_run_of_privateBytes
    {id : String} {pair : KeyPair} {bytes : Bytes}
    (h : pair.privateBytes = .ok bytes) :
    ∃ made rest, (ofPair master id pair).run entropy = (.ok made, rest) := by
  obtain ⟨keys, rest, hrun, -⟩ := @KeyPair.toRecord_run_ok master pair entropy bytes h
  refine ⟨⟨id, none, none, none, pair, keys⟩, rest, ?_⟩
  rw [ofPair, Random.run_bind_of_run hrun]
  rfl

/-- A record of the current shape is read back from its text, with or without line breaks. -/
theorem toRecord_reads
    (credential : Credential) :
    ∃ json, credential.toRecord.toJson? = some json ∧
      ∀ text ∈ [json.compact, json.pretty],
        (Json.parse? text).bind (CredentialRecord.ofJson? 0) = some credential.toRecord := by
  have hsome : credential.toRecord.toJson?.isSome := CredentialRecord.toJson?_isSome_iff.mpr rfl
  obtain ⟨json, hjson⟩ := Option.isSome_iff_exists.mp hsome
  have hplain := CredentialRecord.plain_of_toJson? hjson
  have hread := @CredentialRecord.ofJson?_toJson? _ _ 0 hjson (by decide)
  refine ⟨json, hjson, ?_⟩
  intro text htext
  rcases List.mem_pair.mp htext with rfl | rfl
  · rw [Json.parse?_compact hplain, Option.bind_some, hread]
  · rw [Json.parse?_pretty hplain, Option.bind_some, hread]

/-- A credential that is made around a key pair, whatever texts it is given then, is read back from
its record's text as it was, with the same master key and whatever randomness is at hand. -/
theorem persists
    {id : String} {pair : KeyPair} {made : Credential} {edits : List Edit}
    (h : (ofPair master id pair).run entropy = (.ok made, rest)) :
    (made.edited edits).id = id ∧
      (made.edited edits).pair = pair ∧
      (made.edited edits).WellKept master ∧
      ∃ json, (made.edited edits).toRecord.toJson? = some json ∧
        ∀ text ∈ [json.compact, json.pretty], ∃ record,
          (Json.parse? text).bind (CredentialRecord.ofJson? 0) = some record ∧
            ∀ later, (restore master record).run later
              = (.ok (made.edited edits, false), later) := by
  obtain ⟨hkept, hid, hpair⟩ := ofPair_run_ok h
  obtain ⟨hsameId, hsamePair, -⟩ := edited_identity made edits
  have hedited := edited_wellKept hkept edits
  refine ⟨hsameId.trans hid, hsamePair.trans hpair, hedited, ?_⟩
  obtain ⟨json, hjson, hread⟩ := toRecord_reads (made.edited edits)
  exact ⟨json, hjson, fun text htext =>
    ⟨_, hread text htext, hedited.toRecord_opens.restore_run rfl⟩⟩

theorem least_persists :
    ∃ made rest, (ofPair .uniform "deploy" .least).run ⟨fun _ => 0, 0⟩ = (.ok made, rest) ∧
      ∃ json, (made.edited [.issuer (some ""), .audience (some "sts")]).toRecord.toJson?
          = some json ∧
        ∀ text ∈ [json.compact, json.pretty], ∃ record,
          (Json.parse? text).bind (CredentialRecord.ofJson? 0) = some record ∧
            ∀ later, (restore .uniform record).run later
              = (.ok (made.edited [.issuer (some ""), .audience (some "sts")], false), later) := by
  obtain ⟨bytes, hbytes⟩ := KeyPair.privateBytes_least
  obtain ⟨made, rest, hrun⟩ := @ofPair_run_of_privateBytes .uniform ⟨fun _ => 0, 0⟩ "deploy" _ _
    hbytes
  exact ⟨made, rest, hrun, (persists hrun).2.2.2⟩

end Credential
end WorkloadIdentity
