import WorkloadIdentity.Key.Record
import WorkloadIdentity.Proofs.Key.Encodings

/-!
# Key records are read back under the master key

A key pair that has an encoding has a record, and the record holds that very pair, whatever nonces
were drawn for it.  Loading a record of the current shape draws nothing and keeps the record as it
is; loading a legacy record gives a record of the current shape that holds the same pair.

* `KeyPair.decrypt_of_toRecord`: a key pair is read back from its record.
* `KeyRecord.load_run_ok`: what a record that loads gives.
* `KeyRecord.Opens.load_run`: a record of the current shape loads without a change.
-/

namespace WorkloadIdentity

/-- What two computations give one after the other, both of them give. -/
theorem exists_of_bind_ok
    {ε α β : Type} {first : Except ε α} {next : α → Except ε β} {value : β}
    (h : first >>= next = .ok value) :
    ∃ middle, first = .ok middle ∧ next middle = .ok value := by
  cases first with
  | error fault => cases h
  | ok middle => exact ⟨middle, rfl, h⟩

namespace MasterKey

variable {master : MasterKey} {text secret : String} {entropy rest : Entropy}

/-- A text is read back from its encrypted form, whatever nonce was drawn. -/
theorem decrypt_of_encrypt
    (h : (master.encrypt text).run entropy = (secret, rest)) :
    master.decrypt secret = .ok text := by
  have hsecret : master.encryptWith (entropy.draw Gcm.nonceSize).1 text = secret :=
    congrArg Prod.fst h
  rw [← hsecret]
  exact decrypt_encryptWith master (Entropy.length_draw _ _) text

theorem decryptBytes_of_encrypt
    {stored : StoredSecret} {bytes : Bytes}
    (h : (master.encrypt (Base64.encode .standard bytes)).run entropy = (secret, rest)) :
    master.decryptBytes stored secret = .ok bytes := by
  simp only [decryptBytes, decrypt_of_encrypt h, Base64.decode_encode, bind, Except.bind]

end MasterKey

namespace KeyPair

variable {master : MasterKey} {pair : KeyPair} {entropy : Entropy}

/-- A key pair without an encoding has no record, and nothing is drawn for it. -/
theorem toRecord_run_error
    {fault : KeyFault}
    (h : pair.privateBytes = .error fault) :
    (pair.toRecord master).run entropy = (.error fault, entropy) := by
  simp only [toRecord, h]
  rfl

/-- A key pair that has an encoding has a record that holds the pair. -/
theorem toRecord_run_ok
    {bytes : Bytes}
    (h : pair.privateBytes = .ok bytes) :
    ∃ keys rest, (pair.toRecord master).run entropy = (.ok keys, rest) ∧
      keys.decrypt master = .ok pair := by
  obtain ⟨privateKey, between, hprivate⟩ : ∃ secret rest,
      (master.encrypt (Base64.encode .standard bytes)).run entropy = (secret, rest) :=
    ⟨_, _, rfl⟩
  obtain ⟨publicKey, rest, hpublic⟩ : ∃ secret rest,
      (master.encrypt (Base64.encode .standard pair.publicBytes)).run between = (secret, rest) :=
    ⟨_, _, rfl⟩
  refine ⟨⟨pair.algorithm.name, privateKey, publicKey⟩, rest, ?_, ?_⟩
  · simp only [toRecord, h]
    rw [Random.run_bind_of_run hprivate, Random.run_bind_of_run hpublic]
    rfl
  · simp only [SealedKeys.decrypt, Algorithm.ofName?_name,
      MasterKey.decryptBytes_of_encrypt hprivate, MasterKey.decryptBytes_of_encrypt hpublic,
      bind, Except.bind]
    exact decode_privateBytes h

/-- A key pair is read back from its record. -/
theorem decrypt_of_toRecord
    {keys : SealedKeys} {rest : Entropy}
    (h : (pair.toRecord master).run entropy = (.ok keys, rest)) :
    keys.decrypt master = .ok pair := by
  cases hbytes : pair.privateBytes with
  | error fault =>
      rw [toRecord_run_error hbytes] at h
      cases h
  | ok bytes =>
      obtain ⟨found, after, hrun, hdecrypt⟩ := @toRecord_run_ok master pair entropy bytes hbytes
      rw [hrun] at h
      cases h
      exact hdecrypt

end KeyPair

namespace KeyRecord

/-- A stored record gives a key pair under the master key, and the record to keep for it from then
on. -/
structure Opens
    (master : MasterKey)
    (stored : KeyRecord)
    (kept : SealedKeys)
    (pair : KeyPair) : Prop where
  /-- The record that is kept holds the pair. -/
  decrypts : kept.decrypt master = .ok pair
  /-- A record of the current shape is kept as it is. -/
  keeps : stored.isLegacy = false → stored = current kept
  /-- A legacy record holds the private key of the pair. -/
  migrates : ∀ privateKey, stored = legacy privateKey → migrate master privateKey = .ok pair

variable {master : MasterKey} {stored : KeyRecord} {kept : SealedKeys} {pair : KeyPair}
  {entropy rest : Entropy}

/-- A record of the current shape gives what it holds. -/
theorem opens_current
    (h : kept.decrypt master = .ok pair) :
    (current kept).Opens master kept pair where
  decrypts := h
  keeps := fun _ => rfl
  migrates := fun _ heq => by cases heq

/-- A record of the current shape is kept as it is, and nothing is drawn for it. -/
theorem Opens.load_run
    (h : stored.Opens master kept pair)
    (hcurrent : stored.isLegacy = false) :
    (load master stored).run entropy = (.ok ⟨pair, kept, false⟩, entropy) := by
  rw [h.keeps hcurrent]
  simp only [load, h.decrypts]
  rfl

/-- What a record that loads gives.  Only legacy records are migrated, and only for them something
is drawn. -/
theorem load_run_ok
    {loaded : LoadedKey}
    (h : (load master stored).run entropy = (.ok loaded, rest)) :
    stored.Opens master loaded.record loaded.pair ∧
      loaded.migrated = stored.isLegacy ∧
      (stored.isLegacy = false → rest = entropy) := by
  cases stored with
  | current keys =>
      cases hkeys : keys.decrypt master with
      | error fault =>
          simp only [load, hkeys] at h
          cases h
      | ok pair =>
          rw [(opens_current hkeys).load_run rfl] at h
          cases h
          exact ⟨opens_current hkeys, rfl, fun _ => rfl⟩
  | legacy privateKey =>
      cases hpair : migrate master privateKey with
      | error fault =>
          simp only [load, hpair] at h
          cases h
      | ok pair =>
          obtain ⟨outcome, after, hrun⟩ : ∃ outcome after,
              (pair.toRecord master).run entropy = (outcome, after) := ⟨_, _, rfl⟩
          simp only [load, hpair] at h
          rw [Random.run_bind_of_run hrun] at h
          cases outcome with
          | error fault => cases h
          | ok keys =>
              cases h
              refine ⟨⟨KeyPair.decrypt_of_toRecord hrun, ?_, ?_⟩, rfl, ?_⟩
              · intro hfalse
                cases hfalse
              · intro found heq
                cases heq
                exact hpair
              · intro hfalse
                cases hfalse

/-- The key pair that a record gives, or why it gives none.  The nonces that are drawn where the
record is loaded have no part in it. -/
def opened (master : MasterKey) : KeyRecord → Except KeyFault KeyPair
  | current keys => keys.decrypt master
  | legacy privateKey => do
      let pair ← migrate master privateKey
      -- a legacy record is replaced, so there must be an encoding of what it holds
      let _ ← pair.privateBytes
      return pair

/-- Loading gives the key pair, whatever nonces are drawn.  It counts as migrated exactly if the
record has the legacy shape. -/
def Loads
    (master : MasterKey)
    (stored : KeyRecord)
    (pair : KeyPair) : Prop :=
  ∀ entropy, ∃ kept rest,
    (load master stored).run entropy = (.ok ⟨pair, kept, stored.isLegacy⟩, rest)

/-- Loading fails, whatever nonces are at hand, and none is drawn. -/
def Fails
    (master : MasterKey)
    (stored : KeyRecord)
    (fault : KeyFault) : Prop :=
  ∀ entropy, (load master stored).run entropy = (.error fault, entropy)

/-- Loading a record gives what the record opens to. -/
theorem load_run
    (master : MasterKey) (stored : KeyRecord) :
    match stored.opened master with
    | .error fault => stored.Fails master fault
    | .ok pair => stored.Loads master pair := by
  cases stored with
  | current keys =>
      cases hkeys : keys.decrypt master with
      | error fault =>
          simp only [opened, hkeys]
          intro entropy
          simp only [load, hkeys]
          rfl
      | ok pair =>
          simp only [opened, hkeys]
          intro entropy
          simp only [load, hkeys]
          exact ⟨keys, entropy, rfl⟩
  | legacy privateKey =>
      cases hpair : migrate master privateKey with
      | error fault =>
          simp only [opened, hpair]
          intro entropy
          simp only [load, hpair]
          rfl
      | ok pair =>
          cases hbytes : pair.privateBytes with
          | error fault =>
              simp only [opened, hpair, hbytes, bind, Except.bind]
              intro entropy
              simp only [load, hpair]
              exact Random.run_bind_of_run (KeyPair.toRecord_run_error hbytes)
          | ok bytes =>
              simp only [opened, hpair, hbytes, bind, Except.bind]
              intro entropy
              obtain ⟨keys, rest, hrun, -⟩ := @KeyPair.toRecord_run_ok master pair entropy bytes
                hbytes
              simp only [load, hpair]
              exact ⟨keys, rest, Random.run_bind_of_run hrun⟩

/-- A record that fails to load gives no pair. -/
theorem Fails.not_loads
    {fault : KeyFault}
    (h : stored.Fails master fault) :
    ¬ stored.Loads master pair := by
  intro hloads
  obtain ⟨kept, rest, hrun⟩ := hloads ⟨fun _ => 0, 0⟩
  cases (h _).symm.trans hrun

theorem opened_eq_ok_iff :
    stored.opened master = .ok pair ↔ stored.Loads master pair := by
  have hload := load_run master stored
  cases hopened : stored.opened master with
  | error fault =>
      simp only [hopened] at hload
      constructor
      · intro hfalse
        cases hfalse
      · intro hloads
        exact absurd hloads hload.not_loads
  | ok found =>
      simp only [hopened] at hload
      constructor
      · intro heq
        cases heq
        exact hload
      · intro hloads
        obtain ⟨_, _, hfound⟩ := hload ⟨fun _ => 0, 0⟩
        obtain ⟨_, _, hpair⟩ := hloads ⟨fun _ => 0, 0⟩
        cases hfound.symm.trans hpair
        rfl

theorem opened_eq_error_iff
    {fault : KeyFault} :
    stored.opened master = .error fault ↔ stored.Fails master fault := by
  have hload := load_run master stored
  cases hopened : stored.opened master with
  | error found =>
      simp only [hopened] at hload
      constructor
      · intro heq
        cases heq
        exact hload
      · intro hfails
        cases (hload ⟨fun _ => 0, 0⟩).symm.trans (hfails ⟨fun _ => 0, 0⟩)
        rfl
  | ok pair =>
      simp only [hopened] at hload
      constructor
      · intro hfalse
        cases hfalse
      · intro hfails
        exact absurd hload hfails.not_loads

/-- A record of the current shape that is kept for a pair opens to the pair. -/
theorem Opens.opened
    (h : stored.Opens master kept pair)
    (hcurrent : stored.isLegacy = false) :
    stored.opened master = .ok pair := by
  rw [h.keeps hcurrent]
  exact h.decrypts

/-- A record that is kept for a pair opens to no other pair. -/
theorem Opens.opened_eq
    {other : KeyPair}
    (h : stored.Opens master kept pair)
    (hopened : stored.opened master = .ok other) :
    other = pair := by
  cases stored with
  | current keys =>
      have hpair := h.opened rfl
      rw [hpair] at hopened
      cases hopened
      rfl
  | legacy privateKey =>
      obtain ⟨migrated, hmigrated, hopened⟩ := exists_of_bind_ok hopened
      obtain ⟨_, -, hsame⟩ := exists_of_bind_ok hopened
      cases hsame
      rw [h.migrates privateKey rfl] at hmigrated
      cases hmigrated
      rfl

/-- Legacy records hold keys for one algorithm only. -/
theorem algorithm_of_opened
    (h : stored.opened master = .ok pair)
    (hlegacy : stored.isLegacy = true) :
    pair.algorithm = .rs256 := by
  cases stored with
  | current keys => cases hlegacy
  | legacy privateKey =>
      obtain ⟨migrated, hmigrated, h⟩ := exists_of_bind_ok h
      obtain ⟨_, -, hsame⟩ := exists_of_bind_ok h
      cases hsame
      obtain ⟨bytes, -, hpair⟩ := exists_of_bind_ok hmigrated
      obtain ⟨material, -, hparts⟩ := exists_of_bind_ok hpair
      exact (KeyPair.ofParts_ok_iff.mp hparts).1

end KeyRecord

/-- The master key whose bytes are all the same. -/
def MasterKey.uniform : MasterKey :=
  ⟨List.replicate 32 42, List.length_replicate⟩

/-- The key pair with the least modulus that is accepted. -/
def KeyPair.least : KeyPair where
  algorithm := .rs256
  material := .rsa ⟨15, 3, 3, 3, 5⟩ (by decide) (by decide)
  fits := rfl

/-- A key pair with another small modulus. -/
def KeyPair.small : KeyPair where
  algorithm := .rs256
  material := .rsa ⟨21, 5, 5, 3, 7⟩ (by decide) (by decide)
  fits := rfl

theorem KeyPair.privateBytes_least :
    ∃ bytes, least.privateBytes = .ok bytes := by
  have hsome : least.material.encodePrivate?.isSome := by decide +kernel
  obtain ⟨bytes, hbytes⟩ := Option.isSome_iff_exists.mp hsome
  exact ⟨bytes, privateBytes_eq_ok_iff.mpr hbytes⟩

theorem KeyPair.privateBytes_small :
    ∃ bytes, small.privateBytes = .ok bytes := by
  have hsome : small.material.encodePrivate?.isSome := by decide +kernel
  obtain ⟨bytes, hbytes⟩ := Option.isSome_iff_exists.mp hsome
  exact ⟨bytes, privateBytes_eq_ok_iff.mpr hbytes⟩

end WorkloadIdentity
