import WorkloadIdentity.Proofs.Store.Restoring

/-!
# Files that do not restore

A file is refused for its first item, in the file's order, with which something is wrong: what is
listed before that item is sound.  The items are the scopes, each with its URI, and the records in
them.  Records before the item may have been replaced when restoring stops; they are then of the
current shape and open to the same key pairs, so the file that is left is refused again, for the
same item, and is kept as it is.

* `Store.restore_run_error`: what is left of a file that does not restore.
* `Store.restore_run_of_refused`: a refused file without legacy records before the item.
* `StoreFile.Refused.not_sound`: sound files are not refused.
-/

namespace WorkloadIdentity

/-- The records of all scopes, in the file's order. -/
def StoreFile.records (file : StoreFile) : List CredentialRecord :=
  file.scopes.flatMap ScopeRecord.credentials

/-- What is wrong with a record after records with the given ids: its id is one of them or else
its keys do not open. -/
inductive CredentialRecord.Refused
    (master : MasterKey)
    (uri : String)
    (before : List String)
    (record : CredentialRecord) : StoreFault → Prop
  | listed
      (hlisted : record.id ∈ before) :
      Refused master uri before record (.duplicateCredential uri record.id)
  | closed {cause : KeyFault}
      (hnew : record.id ∉ before)
      (hkeys : record.keys.Fails master cause) :
      Refused master uri before record (.credential uri record.id cause)

/-- What is wrong with a scope after scopes at the given URIs, and the number of its records
before that: its own URI comes first, and then its records one by one. -/
inductive ScopeRecord.Refused
    (master : MasterKey)
    (before : List String)
    (scope : ScopeRecord) : Nat → StoreFault → Prop
  | invalid
      (hinvalid : ¬ Scope.ValidUri scope.uri) :
      Refused master before scope 0 (.invalidScope scope.uri)
  | listed
      (hvalid : Scope.ValidUri scope.uri)
      (hlisted : scope.uri ∈ before) :
      Refused master before scope 0 (.duplicateScope scope.uri)
  | credential {done later : List CredentialRecord} {record : CredentialRecord}
      {fault : StoreFault}
      (hnew : scope.uri ∉ before)
      (hsplit : scope.credentials = done ++ record :: later)
      (hdone : Sound master ⟨scope.uri, done⟩)
      (hrecord : record.Refused master scope.uri (done.map CredentialRecord.id) fault) :
      Refused master before scope done.length fault

/-- What is wrong with the first bad item of a file, and the number of records before it. -/
inductive StoreFile.Refused
    (master : MasterKey)
    (file : StoreFile) : Nat → StoreFault → Prop
  | scope {done later : List ScopeRecord} {scope : ScopeRecord} {count : Nat}
      {fault : StoreFault}
      (hsplit : file.scopes = done ++ scope :: later)
      (hdone : Sound master ⟨done⟩)
      (hscope : scope.Refused master (done.map ScopeRecord.uri) count fault) :
      Refused master file ((records ⟨done⟩).length + count) fault

theorem CredentialRecord.Refused.not_sound
    {master : MasterKey} {uri : String} {done later : List CredentialRecord}
    {record : CredentialRecord} {fault : StoreFault}
    (h : record.Refused master uri (done.map CredentialRecord.id) fault) :
    ¬ ScopeRecord.Sound master ⟨uri, done ++ record :: later⟩ := by
  rintro ⟨-, hids, hkeys⟩
  cases h with
  | listed hlisted =>
      rw [ScopeRecord.ids, List.map_append, List.nodup_append] at hids
      exact hids.2.2 _ hlisted record.id (by simp) rfl
  | closed hnew hfault =>
      obtain ⟨pair, hpair⟩ := hkeys record (by simp)
      exact hfault.not_loads hpair

/-- A file in which nothing is wrong is not refused. -/
theorem StoreFile.Refused.not_sound
    {master : MasterKey} {file : StoreFile} {position : Nat} {fault : StoreFault}
    (h : file.Refused master position fault) :
    ¬ file.Sound master := by
  rintro ⟨huris, hscopes⟩
  cases h with
  | @scope done later scope count fault hsplit hdone hscope =>
  have hsound := hscopes scope (by simp [hsplit])
  cases hscope with
  | invalid hinvalid => exact hinvalid hsound.valid
  | listed hvalid hlisted =>
      rw [hsplit, List.map_append, List.nodup_append] at huris
      exact huris.2.2 _ hlisted scope.uri (by simp) rfl
  | credential hnew hrecords hdone hrecord =>
      apply hrecord.not_sound
      rw [← hrecords]
      exact hsound

/-- What restoring may leave of a record: the record itself or, where it has the legacy shape, one
of the current shape with the same id and texts, which opens to the same key pair. -/
inductive CredentialRecord.KeptAs
    (master : MasterKey)
    (record : CredentialRecord) : CredentialRecord → Prop
  | same : KeptAs master record record
  | migrated {kept : CredentialRecord} {pair : KeyPair}
      (hlegacy : record.keys.isLegacy = true)
      (hcurrent : kept.keys.isLegacy = false)
      (hid : kept.id = record.id)
      (hdescription : Credential.unlessEmpty kept.description
        = Credential.unlessEmpty record.description)
      (hissuer : Credential.unlessEmpty kept.issuer = Credential.unlessEmpty record.issuer)
      (haudience : Credential.unlessEmpty kept.audience = Credential.unlessEmpty record.audience)
      (halgorithm : pair.algorithm = .rs256)
      (hold : record.keys.Loads master pair)
      (hnew : kept.keys.Loads master pair) :
      KeptAs master record kept

/-- What restoring may leave of a scope: its records are kept at their places. -/
structure ScopeRecord.KeptAs
    (master : MasterKey)
    (scope kept : ScopeRecord) : Prop where
  uri_eq : kept.uri = scope.uri
  credentials : List.Forall₂ (CredentialRecord.KeptAs master) scope.credentials kept.credentials

namespace CredentialRecord

variable {master : MasterKey} {record kept : CredentialRecord} {credential : Credential}
  {records : List CredentialRecord} {credentials : List Credential}

theorem KeptAs.id_eq
    (h : record.KeptAs master kept) :
    kept.id = record.id := by
  cases h with
  | same => rfl
  | migrated _ _ hid => exact hid

theorem KeptAs.keysOpen
    (h : record.KeptAs master kept)
    (hrecord : record.KeysOpen master) :
    kept.KeysOpen master := by
  cases h with
  | same => exact hrecord
  | migrated _ _ _ _ _ _ _ _ hnew => exact ⟨_, hnew⟩

/-- The record that is kept for a credential stands for the one that was restored. -/
theorem Opens.keptAs
    (h : record.Opens master credential)
    (hkeys : record.KeysOpen master) :
    record.KeptAs master (record.renewed credential) := by
  cases hlegacy : record.keys.isLegacy with
  | false =>
      rw [renewed_of_current hlegacy]
      exact .same
  | true =>
      have hkept := h.renewed
      obtain ⟨pair, hpair⟩ := hkeys
      have hopened := KeyRecord.opened_eq_ok_iff.mpr hpair
      obtain rfl := h.keys.opened_eq hopened
      exact .migrated hlegacy (isLegacy_renewed record credential) h.id_renewed
        (hkept.description_eq.symm.trans h.description_eq)
        (hkept.issuer_eq.symm.trans h.issuer_eq) (hkept.audience_eq.symm.trans h.audience_eq)
        (KeyRecord.algorithm_of_opened hopened hlegacy) hpair
        (KeyRecord.opened_eq_ok_iff.mp h.opened_renewed)

/-- The records that are kept stand for those that were restored, at their places. -/
theorem keptAs_of_opens
    (hopens : List.Forall₂ (Opens master) records credentials)
    (hkeys : ∀ record ∈ records, record.KeysOpen master) :
    List.Forall₂ (KeptAs master) records (records.zipWith renewed credentials) := by
  induction hopens with
  | nil => exact .nil
  | cons hrecord _ ih =>
      obtain ⟨hopen, hkeys⟩ := List.forall_mem_cons.mp hkeys
      exact .cons (hrecord.keptAs hopen) (ih hkeys)

/-- The records that are kept have the current shape. -/
theorem isLegacy_of_mem_zipWith
    (records : List CredentialRecord) (credentials : List Credential) :
    ∀ kept ∈ records.zipWith renewed credentials, kept.keys.isLegacy = false := by
  intro kept hkept
  rw [← List.map_uncurry_zip_eq_zipWith] at hkept
  obtain ⟨⟨record, credential⟩, -, rfl⟩ := List.mem_map.mp hkept
  exact isLegacy_renewed record credential

/-- Records of the current shape whose keys open give credentials. -/
theorem exists_opens
    (hkeys : ∀ record ∈ records, record.KeysOpen master)
    (hcurrent : ∀ record ∈ records, record.keys.isLegacy = false) :
    ∃ credentials, List.Forall₂ (Opens master) records credentials := by
  induction records with
  | nil => exact ⟨[], .nil⟩
  | cons record records ih =>
      obtain ⟨⟨pair, hpair⟩, hkeys⟩ := List.forall_mem_cons.mp hkeys
      obtain ⟨hrecord, hcurrent⟩ := List.forall_mem_cons.mp hcurrent
      obtain ⟨credentials, hopens⟩ := ih hkeys hcurrent
      obtain ⟨kept, rest, hload⟩ := hpair ⟨fun _ => 0, 0⟩
      have hrecord := Credential.restore_run_ok (Random.run_bind_of_run hload)
      exact ⟨_ :: credentials, .cons hrecord.1 hopens⟩

end CredentialRecord

namespace Store

variable {master : MasterKey} {provider : Provider} {entropy rest : Entropy} {fault : StoreFault}

/-- Records that do not restore are left as they are from the first bad one on. -/
theorem restoreCredentials_run_error
    {uri : String} {before : List String} {records after : List CredentialRecord}
    (h : (restoreCredentials master uri before records).run entropy
      = (⟨after, .error fault⟩, rest)) :
    ∃ done kept record later,
      records = done ++ record :: later ∧
        after = kept ++ record :: later ∧
        List.Forall₂ (CredentialRecord.KeptAs master) done kept ∧
        (∀ record ∈ kept, record.keys.isLegacy = false) ∧
        (∀ record ∈ done, record.KeysOpen master) ∧
        Fresh before (done.map CredentialRecord.id) ∧
        record.Refused master uri (before ++ done.map CredentialRecord.id) fault := by
  induction records generalizing before entropy after with
  | nil => cases h
  | cons record records ih =>
      rcases restoreCredentials_run_cons h with ⟨hlisted, hresult⟩ |
        ⟨cause, hnew, hkeys, hresult⟩ |
        ⟨credential, between, ⟨laterRecords, laterOutcome⟩, hnew, hkeys, hopens, -, hlater,
          hresult⟩
      · cases hresult
        exact ⟨[], [], record, records, rfl, rfl, .nil, by simp, by simp, fresh_nil_right before,
          .listed (by simpa using hlisted)⟩
      · cases hresult
        exact ⟨[], [], record, records, rfl, rfl, .nil, by simp, by simp, fresh_nil_right before,
          .closed (by simpa using hnew) hkeys⟩
      · rcases laterOutcome with found | value
        · cases hresult
          obtain ⟨done, kept, stopped, later, rfl, rfl, hkept, hcurrent, hdone, hfresh, hstopped⟩ :=
            ih hlater
          refine ⟨record :: done, record.renewed credential :: kept, stopped, later, rfl, rfl,
            .cons (hopens.keptAs ⟨_, hkeys⟩) hkept, ?_, ?_, fresh_cons.mpr ⟨hnew, hfresh⟩, ?_⟩
          · exact List.forall_mem_cons.mpr ⟨CredentialRecord.isLegacy_renewed _ _, hcurrent⟩
          · exact List.forall_mem_cons.mpr ⟨⟨_, hkeys⟩, hdone⟩
          · simpa using hstopped
        · cases hresult

/-- A record that is refused after records of the current shape stops restoring, and nothing is
changed. -/
theorem restoreCredentials_run_of_refused
    {uri : String} {done later : List CredentialRecord} {record : CredentialRecord}
    (hdone : ScopeRecord.Sound master ⟨uri, done⟩)
    (hcurrent : ∀ record ∈ done, record.keys.isLegacy = false)
    (hrecord : record.Refused master uri (done.map CredentialRecord.id) fault) :
    (restoreCredentials master uri [] (done ++ record :: later)).run entropy
      = (⟨done ++ record :: later, .error fault⟩, entropy) := by
  obtain ⟨credentials, hopens⟩ := CredentialRecord.exists_opens hdone.keys hcurrent
  have hstop : (restoreCredentials master uri ([] ++ done.map CredentialRecord.id)
      (record :: later)).run entropy = (⟨record :: later, .error fault⟩, entropy) := by
    rw [List.nil_append, restoreCredentials]
    cases hrecord with
    | listed hlisted =>
        rw [if_pos hlisted]
        rfl
    | closed hnew hkeys =>
        have hrun : (Credential.restore master record).run entropy = (.error _, entropy) :=
          Random.run_bind_of_run (hkeys entropy)
        rw [if_neg hnew, Random.run_bind_of_run hrun]
        rfl
  exact restoreCredentials_append_run (fresh_nil_left.mpr hdone.ids) hopens hcurrent hstop

end Store

namespace ScopeRecord

variable {master : MasterKey} {scope kept : ScopeRecord} {before : List String} {count : Nat}
  {fault : StoreFault}

theorem KeptAs.refl
    (scope : ScopeRecord) :
    scope.KeptAs master scope :=
  ⟨rfl, List.forall₂_same.mpr fun _ _ => .same⟩

theorem KeptAs.ids_eq
    (h : scope.KeptAs master kept) :
    kept.ids = scope.ids :=
  map_eq_of_forall₂ (fun _ _ hrecord => CredentialRecord.KeptAs.id_eq hrecord) h.credentials

theorem KeptAs.sound
    (h : scope.KeptAs master kept)
    (hscope : scope.Sound master) :
    kept.Sound master where
  valid := h.uri_eq ▸ hscope.valid
  ids := h.ids_eq ▸ hscope.ids
  keys := by
    intro record hrecord
    obtain ⟨old, hold, hkept⟩ := exists_of_mem_right h.credentials hrecord
    exact hkept.keysOpen (hscope.keys old hold)

theorem Refused.count_le
    (h : scope.Refused master before count fault) :
    count ≤ scope.credentials.length := by
  cases h with
  | invalid hinvalid => exact Nat.zero_le _
  | listed hvalid hlisted => exact Nat.zero_le _
  | credential hnew hsplit hdone hrecord => simp [hsplit]

/-- What is left of a scope that is refused: the records before the bad item have the current
shape now, the others are as they were, and the scope is refused again. -/
structure Stopped
    (master : MasterKey)
    (before : List String)
    (scope kept : ScopeRecord)
    (count : Nat)
    (fault : StoreFault) : Prop where
  refused : scope.Refused master before count fault
  again : kept.Refused master before count fault
  keptAs : scope.KeptAs master kept
  current : ∀ record ∈ kept.credentials.take count, record.keys.isLegacy = false
  rest_eq : kept.credentials.drop count = scope.credentials.drop count

/-- A scope that is refused for its own URI is left as it is. -/
theorem Refused.stopped
    (h : scope.Refused master before 0 fault) :
    scope.Stopped master before scope 0 fault where
  refused := h
  again := h
  keptAs := .refl scope
  current := by simp
  rest_eq := rfl

/-- A scope that is refused for one of its records has the records before it replaced. -/
theorem stopped_of_record
    {done keptDone later : List CredentialRecord} {record : CredentialRecord}
    (hnew : scope.uri ∉ before)
    (hsplit : scope.credentials = done ++ record :: later)
    (hdone : Sound master ⟨scope.uri, done⟩)
    (hkept : List.Forall₂ (CredentialRecord.KeptAs master) done keptDone)
    (hcurrent : ∀ record ∈ keptDone, record.keys.isLegacy = false)
    (hrecord : record.Refused master scope.uri (done.map CredentialRecord.id) fault) :
    scope.Stopped master before ⟨scope.uri, keptDone ++ record :: later⟩ done.length fault := by
  have hscope : KeptAs master ⟨scope.uri, done⟩ ⟨scope.uri, keptDone⟩ := ⟨rfl, hkept⟩
  have hlength : keptDone.length = done.length := hkept.length_eq.symm
  have hids : keptDone.map CredentialRecord.id = done.map CredentialRecord.id := hscope.ids_eq
  refine ⟨.credential hnew hsplit hdone hrecord, ?_, ⟨rfl, ?_⟩, ?_, ?_⟩
  · rw [← hlength]
    exact .credential hnew rfl (hscope.sound hdone) (hids ▸ hrecord)
  · rw [hsplit]
    exact List.rel_append hkept (List.forall₂_same.mpr fun _ _ => .same)
  · intro other hother
    rw [List.take_left' hlength] at hother
    exact hcurrent other hother
  · rw [hsplit, List.drop_left' hlength, List.drop_left' rfl]

/-- Scopes of the current shape in which nothing is wrong give issuers. -/
theorem exists_opens
    {scopes : List ScopeRecord}
    (provider : Provider)
    (hscopes : ∀ scope ∈ scopes, scope.Sound master)
    (hcurrent : ∀ scope ∈ scopes, ∀ record ∈ scope.credentials, record.keys.isLegacy = false) :
    ∃ issuers, List.Forall₂ (Opens master provider) scopes issuers := by
  induction scopes with
  | nil => exact ⟨[], .nil⟩
  | cons scope scopes ih =>
      obtain ⟨hscope, hscopes⟩ := List.forall_mem_cons.mp hscopes
      obtain ⟨hrecords, hcurrent⟩ := List.forall_mem_cons.mp hcurrent
      obtain ⟨issuers, hopens⟩ := ih hscopes hcurrent
      obtain ⟨credentials, hcredentials⟩ := CredentialRecord.exists_opens hscope.keys hrecords
      exact ⟨.ofProvider provider scope.uri credentials :: issuers,
        .cons ⟨rfl, rfl, hcredentials⟩ hopens⟩

end ScopeRecord

namespace Store

variable {master : MasterKey} {provider : Provider} {entropy rest : Entropy} {fault : StoreFault}

/-- Scopes that do not restore are left as they are after the one in which restoring stops. -/
theorem restoreScopes_run_error
    {before : List String} {scopes after : List ScopeRecord}
    (h : (restoreScopes master provider before scopes).run entropy
      = (⟨after, .error fault⟩, rest)) :
    ∃ done keptDone scope kept later count,
      scopes = done ++ scope :: later ∧
        after = keptDone ++ kept :: later ∧
        List.Forall₂ (ScopeRecord.KeptAs master) done keptDone ∧
        (∀ scope ∈ keptDone, ∀ record ∈ scope.credentials, record.keys.isLegacy = false) ∧
        (∀ scope ∈ done, scope.Sound master) ∧
        Fresh before (done.map ScopeRecord.uri) ∧
        scope.Stopped master (before ++ done.map ScopeRecord.uri) kept count fault := by
  induction scopes generalizing before entropy after with
  | nil => cases h
  | cons scope scopes ih =>
      rcases restoreScopes_run_cons h with ⟨hinvalid, hresult⟩ | ⟨hvalid, hlisted, hresult⟩ |
        ⟨records, found | ⟨credentials, hereCount⟩, between, hvalid, hnew, hrun, hresult⟩
      · cases hresult
        have hscope := @ScopeRecord.Refused.invalid master before scope hinvalid
        exact ⟨[], [], scope, scope, scopes, 0, rfl, rfl, .nil, by simp, by simp,
          fresh_nil_right before, by simpa using hscope.stopped⟩
      · cases hresult
        have hscope := @ScopeRecord.Refused.listed master before scope hvalid hlisted
        exact ⟨[], [], scope, scope, scopes, 0, rfl, rfl, .nil, by simp, by simp,
          fresh_nil_right before, by simpa using hscope.stopped⟩
      · cases hresult
        obtain ⟨done, keptDone, record, later, hsplit, rfl, hkept, hcurrent, hdone, hids, hrecord⟩ :=
          restoreCredentials_run_error hrun
        have hscope := ScopeRecord.stopped_of_record hnew hsplit
          ⟨hvalid, fresh_nil_left.mp hids, hdone⟩ hkept hcurrent hrecord
        exact ⟨[], [], scope, _, scopes, done.length, rfl, rfl, .nil, by simp, by simp,
          fresh_nil_right before, by simpa using hscope⟩
      · obtain ⟨⟨laterRecords, laterOutcome⟩, hlater, hresult⟩ := hresult
        rcases laterOutcome with found | value
        · cases hresult
          obtain ⟨done, keptDone, stopped, kept, later, count, rfl, rfl, hkept, hcurrent, hdone,
            hfresh, hstopped⟩ := ih hlater
          obtain ⟨hids, hkeys, hopens, rfl, -, -⟩ := restoreCredentials_run_ok hrun
          refine ⟨scope :: done, _ :: keptDone, stopped, kept, later, count, rfl, rfl,
            .cons ⟨rfl, CredentialRecord.keptAs_of_opens hopens hkeys⟩ hkept, ?_, ?_,
            fresh_cons.mpr ⟨hnew, hfresh⟩, by simpa using hstopped⟩
          · refine List.forall_mem_cons.mpr ⟨?_, hcurrent⟩
            exact CredentialRecord.isLegacy_of_mem_zipWith _ _
          · exact List.forall_mem_cons.mpr ⟨⟨hvalid, fresh_nil_left.mp hids, hkeys⟩, hdone⟩
        · cases hresult

/-- A scope that is refused stops restoring before any of the scopes after it. -/
theorem restoreScopes_run_of_refused
    {before : List String} {scope : ScopeRecord} {later : List ScopeRecord} {count : Nat}
    (hscope : scope.Refused master before count fault)
    (hcurrent : ∀ record ∈ scope.credentials.take count, record.keys.isLegacy = false) :
    (restoreScopes master provider before (scope :: later)).run entropy
      = (⟨scope :: later, .error fault⟩, entropy) := by
  rw [restoreScopes]
  cases hscope with
  | invalid hinvalid =>
      have hfalse := Scope.isValid_eq_false_iff.mpr hinvalid
      rw [if_pos (by simp [hfalse])]
      rfl
  | listed hvalid hlisted =>
      have htrue := Scope.isValid_iff.mpr hvalid
      rw [if_neg (by simp [htrue]), if_pos hlisted]
      rfl
  | @credential done rest record _ hnew hsplit hdone hrecord =>
      obtain ⟨uri, credentials⟩ := scope
      obtain rfl : credentials = done ++ record :: rest := hsplit
      rw [List.take_left' rfl] at hcurrent
      have htrue : Scope.isValid uri = true := Scope.isValid_iff.mpr hdone.valid
      have hrun := @restoreCredentials_run_of_refused master entropy fault uri done rest record hdone
        hcurrent hrecord
      rw [if_neg (by simp [htrue]), if_neg hnew]
      simp only [Random.run_bind_of_run hrun]
      rfl

end Store

namespace StoreFile

variable {master : MasterKey} {file after : StoreFile} {position : Nat} {fault : StoreFault}

theorem take_records
    {done later : List ScopeRecord} {scope : ScopeRecord} {count : Nat}
    (hcount : count ≤ scope.credentials.length) :
    (records ⟨done ++ scope :: later⟩).take ((records ⟨done⟩).length + count)
      = records ⟨done⟩ ++ scope.credentials.take count := by
  simp only [records, List.flatMap_append, List.flatMap_cons]
  rw [List.take_length_add_append, List.take_append_of_le_length hcount]

theorem drop_records
    {done later : List ScopeRecord} {scope : ScopeRecord} {count : Nat}
    (hcount : count ≤ scope.credentials.length) :
    (records ⟨done ++ scope :: later⟩).drop ((records ⟨done⟩).length + count)
      = scope.credentials.drop count ++ records ⟨later⟩ := by
  simp only [records, List.flatMap_append, List.flatMap_cons]
  rw [List.drop_length_add_append, List.drop_append_of_le_length hcount]

/-- What is left of a file that is refused: the records before the bad item have the current shape
now, the others are as they were, and the file is refused again. -/
structure Stopped
    (master : MasterKey)
    (file after : StoreFile)
    (position : Nat)
    (fault : StoreFault) : Prop where
  refused : file.Refused master position fault
  again : after.Refused master position fault
  keptAs : List.Forall₂ (ScopeRecord.KeptAs master) file.scopes after.scopes
  current : ∀ record ∈ after.records.take position, record.keys.isLegacy = false
  rest_eq : after.records.drop position = file.records.drop position

/-- A file that is refused in one of its scopes has the scopes before it replaced. -/
theorem stopped_of_scope
    {done keptDone later : List ScopeRecord} {scope kept : ScopeRecord} {count : Nat}
    (hdone : Sound master ⟨done⟩)
    (hkept : List.Forall₂ (ScopeRecord.KeptAs master) done keptDone)
    (hcurrent : ∀ scope ∈ keptDone, ∀ record ∈ scope.credentials, record.keys.isLegacy = false)
    (hscope : scope.Stopped master (done.map ScopeRecord.uri) kept count fault) :
    Stopped master ⟨done ++ scope :: later⟩ ⟨keptDone ++ kept :: later⟩
      ((records ⟨done⟩).length + count) fault := by
  have huris : keptDone.map ScopeRecord.uri = done.map ScopeRecord.uri :=
    map_eq_of_forall₂ (fun _ _ h => ScopeRecord.KeptAs.uri_eq h) hkept
  have hlengths : keptDone.map (fun scope => scope.credentials.length)
      = done.map fun scope => scope.credentials.length :=
    map_eq_of_forall₂ (fun _ _ h => (ScopeRecord.KeptAs.credentials h).length_eq.symm) hkept
  have hlength : (records ⟨keptDone⟩).length = (records ⟨done⟩).length := by
    simp only [records, List.length_flatMap, hlengths]
  have hkeptDone : Sound master ⟨keptDone⟩ := by
    refine ⟨huris ▸ hdone.uris, ?_⟩
    intro other hother
    obtain ⟨old, hold, hrelated⟩ := exists_of_mem_right hkept hother
    exact hrelated.sound (hdone.scopes old hold)
  refine ⟨.scope rfl hdone hscope.refused, ?_, ?_, ?_, ?_⟩
  · rw [← hlength]
    exact .scope rfl hkeptDone (huris ▸ hscope.again)
  · exact List.rel_append hkept (.cons hscope.keptAs (List.forall₂_same.mpr fun _ _ => .refl _))
  · rw [← hlength, take_records hscope.again.count_le]
    intro record hrecord
    rcases List.mem_append.mp hrecord with hbefore | hhere
    · obtain ⟨other, hother, hmem⟩ := List.mem_flatMap.mp hbefore
      exact hcurrent other hother record hmem
    · exact hscope.current record hhere
  · have hrest := @drop_records keptDone later kept count hscope.again.count_le
    rw [hlength] at hrest
    rw [hrest, drop_records hscope.refused.count_le, hscope.rest_eq]

end StoreFile

namespace Store

variable {master : MasterKey} {provider : Provider} {entropy rest : Entropy}
  {file after : StoreFile} {fault : StoreFault}

/-- What is left of a file that does not restore. -/
theorem restore_run_error
    (h : (restore master provider file).run entropy = (⟨after, .error fault⟩, rest)) :
    ∃ position, file.Stopped master after position fault := by
  obtain ⟨⟨records, outcome⟩, last, hrun⟩ : ∃ scopes last,
      (restoreScopes master provider [] file.scopes).run entropy = (scopes, last) := ⟨_, _, rfl⟩
  rw [restore, Random.run_bind_of_run hrun] at h
  rcases outcome with found | value
  · cases h
    obtain ⟨done, keptDone, scope, kept, later, count, hsplit, rfl, hkept, hcurrent, hdone, hfresh,
      hscope⟩ := restoreScopes_run_error hrun
    obtain ⟨scopes⟩ := file
    obtain rfl : scopes = done ++ scope :: later := hsplit
    exact ⟨_, StoreFile.stopped_of_scope ⟨fresh_nil_left.mp hfresh, hdone⟩ hkept hcurrent
      (by simpa using hscope)⟩
  · cases h

/-- A file in which nothing is wrong restores, whatever is drawn. -/
theorem restore_run_of_sound
    (master : MasterKey) (provider : Provider)
    (hsound : file.Sound master)
    (entropy : Entropy) :
    ∃ after store count rest,
      (restore master provider file).run entropy = (⟨after, .ok (store, count)⟩, rest) := by
  obtain ⟨⟨after, outcome⟩, rest, hrun⟩ : ∃ restored rest,
      (restore master provider file).run entropy = (restored, rest) := ⟨_, _, rfl⟩
  rcases outcome with fault | ⟨store, count⟩
  · obtain ⟨position, hstopped⟩ := restore_run_error hrun
    exact absurd hsound hstopped.refused.not_sound
  · exact ⟨after, store, count, rest, hrun⟩

/-- A file that is refused, without legacy records before the bad item, does not restore, and is
left as it is. -/
theorem restore_run_of_refused
    {position : Nat}
    (hrefused : file.Refused master position fault)
    (hcurrent : ∀ record ∈ file.records.take position, record.keys.isLegacy = false) :
    (restore master provider file).run entropy = (⟨file, .error fault⟩, entropy) := by
  cases hrefused with
  | @scope done later scope count _ hsplit hdone hscope =>
      obtain ⟨scopes⟩ := file
      obtain rfl : scopes = done ++ scope :: later := hsplit
      rw [StoreFile.take_records hscope.count_le] at hcurrent
      obtain ⟨hbefore, hhere⟩ := List.forall_mem_append.mp hcurrent
      have hdoneCurrent : ∀ scope ∈ done, ∀ record ∈ scope.credentials,
          record.keys.isLegacy = false := fun other hother record hrecord =>
        hbefore record (List.mem_flatMap.mpr ⟨other, hother, hrecord⟩)
      obtain ⟨issuers, hopens⟩ := ScopeRecord.exists_opens provider hdone.scopes hdoneCurrent
      have hstop := @restoreScopes_run_of_refused master provider entropy fault
        ([] ++ done.map ScopeRecord.uri) scope later count hscope hhere
      have hrun := restoreScopes_append_run (fresh_nil_left.mpr hdone.uris)
        (fun other hother => ⟨hdone.wellFormed.valid other hother, hdone.wellFormed.ids other hother⟩)
        hopens hdoneCurrent hstop
      rw [restore, Random.run_bind_of_run hrun]
      rfl

end Store
end WorkloadIdentity
