import Mathlib.Data.List.Forall2
import Mathlib.Data.List.Nodup
import WorkloadIdentity.Proofs.Credential.Persistence
import WorkloadIdentity.Store.Restore

/-!
# Restoring a store

What a file that restores must hold, and what it gives: no scope and no id inside a scope is listed
twice, every URI is valid, and each record opens to the credential at its place.  Only records of
the legacy shape are replaced, and a file without them is restored without a change.

* `Store.restore_run_ok`: what a file that restores holds and gives.
* `Store.restore_run_of_opens`: a file of the current shape that opens to some issuers restores to
  them, is kept as it is, and nothing is drawn.
-/

namespace WorkloadIdentity

/-- No name is listed twice, nor listed before. -/
def Fresh
    (before names : List String) : Prop :=
  names.Nodup ∧ ∀ name ∈ names, name ∉ before

theorem fresh_nil_left
    {names : List String} :
    Fresh [] names ↔ names.Nodup := by
  simp [Fresh]

theorem fresh_nil_right
    (before : List String) :
    Fresh before [] := by
  simp [Fresh]

/-- Each name is compared with those before it. -/
theorem fresh_cons
    {before names : List String} {name : String} :
    Fresh before (name :: names) ↔ name ∉ before ∧ Fresh (before ++ [name]) names := by
  simp only [Fresh, List.nodup_cons, List.mem_cons, forall_eq_or_imp, List.mem_append,
    List.not_mem_nil, or_false, not_or]
  constructor
  · rintro ⟨⟨hname, hnodup⟩, hbefore, hnames⟩
    exact ⟨hbefore, hnodup, fun other hother =>
      ⟨hnames other hother, fun heq => hname (heq ▸ hother)⟩⟩
  · rintro ⟨hbefore, hnodup, hnames⟩
    exact ⟨⟨fun hmem => (hnames name hmem).2 rfl, hnodup⟩, hbefore,
      fun other hother => (hnames other hother).1⟩

/-- The ids of the credentials in a scope, in their order. -/
def ScopeRecord.ids (scope : ScopeRecord) : List String :=
  scope.credentials.map CredentialRecord.id

/-- The URIs of the scopes with the ids in them, in their order. -/
def StoreFile.outline (file : StoreFile) : List (String × List String) :=
  file.scopes.map fun scope => (scope.uri, scope.ids)

/-- The keys of a record load under the master key. -/
def CredentialRecord.KeysOpen
    (master : MasterKey)
    (record : CredentialRecord) : Prop :=
  ∃ pair, record.keys.Loads master pair

/-- The URI is empty, or begins with a slash and does not end with one. -/
def Scope.ValidUri
    (uri : String) : Prop :=
  uri = "" ∨ (∃ rest, uri = "/" ++ rest) ∧ ∀ rest, uri ≠ rest ++ "/"

theorem Scope.isValid_iff
    {uri : String} :
    isValid uri = true ↔ ValidUri uri := by
  have hfirst : uri.toList.head? = some '/' ↔ ∃ rest, uri = "/" ++ rest := by
    rw [List.head?_eq_some_iff]
    constructor
    · rintro ⟨chars, hchars⟩
      exact ⟨String.ofList chars, by simp [← String.toList_inj, hchars]⟩
    · rintro ⟨rest, rfl⟩
      exact ⟨rest.toList, by simp⟩
  have hlast : uri.toList.getLast? = some '/' ↔ ∃ rest, uri = rest ++ "/" := by
    rw [List.getLast?_eq_some_iff]
    constructor
    · rintro ⟨chars, hchars⟩
      exact ⟨String.ofList chars, by simp [← String.toList_inj, hchars]⟩
    · rintro ⟨rest, rfl⟩
      exact ⟨rest.toList, by simp⟩
  simp only [isValid, ValidUri, Bool.or_eq_true, Bool.and_eq_true, beq_iff_eq, bne_iff_ne, ne_eq,
    hfirst, hlast, not_exists]

theorem Scope.isValid_eq_false_iff
    {uri : String} :
    isValid uri = false ↔ ¬ ValidUri uri := by
  rw [← isValid_iff, Bool.not_eq_true]

/-- Every URI is valid, and nothing is listed twice. -/
structure StoreFile.WellFormed (file : StoreFile) : Prop where
  uris : (file.scopes.map ScopeRecord.uri).Nodup
  valid : ∀ scope ∈ file.scopes, Scope.isValid scope.uri = true
  ids : ∀ scope ∈ file.scopes, scope.ids.Nodup

/-- The URI is valid, no id is listed twice, and the keys of every record open. -/
structure ScopeRecord.Sound
    (master : MasterKey)
    (scope : ScopeRecord) : Prop where
  valid : Scope.ValidUri scope.uri
  ids : scope.ids.Nodup
  keys : ∀ record ∈ scope.credentials, record.KeysOpen master

/-- A file in which nothing is wrong. -/
structure StoreFile.Sound
    (master : MasterKey)
    (file : StoreFile) : Prop where
  uris : (file.scopes.map ScopeRecord.uri).Nodup
  scopes : ∀ scope ∈ file.scopes, scope.Sound master

theorem StoreFile.Sound.wellFormed
    {master : MasterKey} {file : StoreFile}
    (h : file.Sound master) :
    file.WellFormed where
  uris := h.uris
  valid := fun scope hscope => Scope.isValid_iff.mpr (h.scopes scope hscope).valid
  ids := fun scope hscope => (h.scopes scope hscope).ids

/-- A scope's records give the credentials of an issuer, one by one. -/
structure ScopeRecord.Opens
    (master : MasterKey)
    (provider : Provider)
    (scope : ScopeRecord)
    (issuer : Issuer) : Prop where
  uri_eq : issuer.uri = scope.uri
  url_eq : issuer.url = provider.issuerUrl scope.uri
  credentials : List.Forall₂ (CredentialRecord.Opens master) scope.credentials issuer.credentials

/-- An issuer at a valid URI, whose credentials are well kept and have different ids. -/
structure Issuer.WellFormed
    (master : MasterKey)
    (provider : Provider)
    (issuer : Issuer) : Prop where
  valid : Scope.isValid issuer.uri = true
  url_eq : issuer.url = provider.issuerUrl issuer.uri
  ids : (issuer.credentials.map Credential.id).Nodup
  wellKept : ∀ credential ∈ issuer.credentials, credential.WellKept master

/-- The records that are kept for a scope. -/
def ScopeRecord.renewed
    (scope : ScopeRecord)
    (issuer : Issuer) : ScopeRecord :=
  { scope with
    credentials := scope.credentials.zipWith CredentialRecord.renewed issuer.credentials }

/-- The scopes of a file give issuers, one by one. -/
def StoreFile.Opens
    (master : MasterKey)
    (provider : Provider)
    (file : StoreFile)
    (issuers : List Issuer) : Prop :=
  List.Forall₂ (ScopeRecord.Opens master provider) file.scopes issuers

/-- The records that are kept for a file. -/
def StoreFile.renewed
    (file : StoreFile)
    (issuers : List Issuer) : StoreFile :=
  ⟨file.scopes.zipWith ScopeRecord.renewed issuers⟩

namespace Store

variable {master : MasterKey} {provider : Provider} {entropy rest : Entropy}

/-- What restoring does with the first record: its id is listed already, its keys do not open, or
it gives a credential and the other records follow. -/
theorem restoreCredentials_run_cons
    {uri : String} {before : List String} {record : CredentialRecord}
    {records : List CredentialRecord}
    {result : Restored (List CredentialRecord) (List Credential × Nat)}
    (h : (restoreCredentials master uri before (record :: records)).run entropy = (result, rest)) :
    (record.id ∈ before ∧
        result = ⟨record :: records, .error (.duplicateCredential uri record.id)⟩) ∨
      (∃ fault, record.id ∉ before ∧ record.keys.Fails master fault ∧
        result = ⟨record :: records, .error (.credential uri record.id fault)⟩) ∨
      ∃ credential between later,
        record.id ∉ before ∧
        record.keys.Loads master credential.pair ∧
        record.Opens master credential ∧
        (record.keys.isLegacy = false → between = entropy) ∧
        (restoreCredentials master uri (before ++ [record.id]) records).run between
          = (later, rest) ∧
        result = ⟨record.renewed credential :: later.records,
          later.outcome.map fun (credentials, count) => (credential :: credentials,
            if record.keys.isLegacy then count + 1 else count)⟩ := by
  by_cases hbefore : record.id ∈ before
  · rw [restoreCredentials, if_pos hbefore] at h
    cases h
    exact Or.inl ⟨hbefore, rfl⟩
  · rw [restoreCredentials, if_neg hbefore] at h
    right
    have hrun := Credential.restore_run master record entropy
    cases hkeys : record.keys.opened master with
    | error fault =>
        simp only [hkeys] at hrun
        rw [Random.run_bind_of_run hrun] at h
        cases h
        exact Or.inl ⟨fault, hbefore, KeyRecord.opened_eq_error_iff.mp hkeys, rfl⟩
    | ok pair =>
        simp only [hkeys] at hrun
        obtain ⟨credential, between, hrun, rfl⟩ := hrun
        rw [Random.run_bind_of_run hrun] at h
        obtain ⟨later, last, hlater⟩ : ∃ later last,
            (restoreCredentials master uri (before ++ [record.id]) records).run between
              = (later, last) := ⟨_, _, rfl⟩
        simp only [Random.run_bind_of_run hlater] at h
        cases h
        obtain ⟨hopens, -, hdrawn⟩ := Credential.restore_run_ok hrun
        exact Or.inr ⟨credential, between, later, hbefore, KeyRecord.opened_eq_ok_iff.mp hkeys,
          hopens, hdrawn, hlater, rfl⟩

/-- What the records of a scope that restores give. -/
theorem restoreCredentials_run_ok
    {uri : String} {before : List String} {records after : List CredentialRecord}
    {credentials : List Credential} {count : Nat}
    (h : (restoreCredentials master uri before records).run entropy
      = (⟨after, .ok (credentials, count)⟩, rest)) :
    Fresh before (records.map CredentialRecord.id) ∧
      (∀ record ∈ records, record.KeysOpen master) ∧
      List.Forall₂ (CredentialRecord.Opens master) records credentials ∧
      after = records.zipWith CredentialRecord.renewed credentials ∧
      count = records.countP (fun record => record.keys.isLegacy) ∧
      (count = 0 → rest = entropy) := by
  induction records generalizing before entropy after credentials count with
  | nil =>
      cases h
      exact ⟨fresh_nil_right before, by simp, .nil, rfl, rfl, fun _ => rfl⟩
  | cons record records ih =>
      rcases restoreCredentials_run_cons h with ⟨-, hresult⟩ | ⟨fault, -, -, hresult⟩ |
        ⟨credential, between, ⟨laterRecords, laterOutcome⟩, hbefore, hkeys, hopens, hdrawn, hlater,
          hresult⟩
      · cases hresult
      · cases hresult
      · rcases laterOutcome with fault | ⟨laterCredentials, laterCount⟩
        · cases hresult
        · cases hresult
          obtain ⟨hfresh, hopen, hall, hafter, hcount, hrest⟩ := ih hlater
          refine ⟨fresh_cons.mpr ⟨hbefore, hfresh⟩, List.forall_mem_cons.mpr ⟨⟨_, hkeys⟩, hopen⟩,
            .cons hopens hall, ?_, ?_, ?_⟩
          · rw [hafter]
            rfl
          · rw [List.countP_cons, ← hcount]
            cases record.keys.isLegacy <;> rfl
          · intro hnone
            cases hlegacy : record.keys.isLegacy with
            | true => simp [hlegacy] at hnone
            | false =>
                rw [hrest (by simpa [hlegacy] using hnone), hdrawn hlegacy]

/-- Records of the current shape that open to some credentials restore to them, and then comes
what is listed after them. -/
theorem restoreCredentials_append_run
    {uri : String} {before : List String} {records more : List CredentialRecord}
    {credentials : List Credential}
    {later : Restored (List CredentialRecord) (List Credential × Nat)}
    (hfresh : Fresh before (records.map CredentialRecord.id))
    (hopens : List.Forall₂ (CredentialRecord.Opens master) records credentials)
    (hcurrent : ∀ record ∈ records, record.keys.isLegacy = false)
    (hmore : (restoreCredentials master uri (before ++ records.map CredentialRecord.id) more).run
      entropy = (later, rest)) :
    (restoreCredentials master uri before (records ++ more)).run entropy
      = (⟨records ++ later.records, later.outcome.map fun (found, count) =>
          (credentials ++ found, count)⟩, rest) := by
  obtain ⟨kept, outcome⟩ := later
  induction hopens generalizing before with
  | nil =>
      rw [List.map_nil, List.append_nil] at hmore
      rw [List.nil_append, hmore]
      cases outcome <;> rfl
  | @cons record credential records credentials hrecord _ ih =>
      obtain ⟨hbefore, hfresh⟩ := fresh_cons.mp hfresh
      obtain ⟨hkeys, hcurrent⟩ := List.forall_mem_cons.mp hcurrent
      have hlater := ih hfresh hcurrent (by simpa using hmore)
      rw [List.cons_append, restoreCredentials, if_neg hbefore,
        Random.run_bind_of_run (hrecord.restore_run hkeys entropy)]
      simp only [Random.run_bind_of_run hlater]
      cases outcome <;> rfl

/-- Records of the current shape that open to some credentials restore to them. -/
theorem restoreCredentials_run_of_opens
    {uri : String} {before : List String} {records : List CredentialRecord}
    {credentials : List Credential}
    (hfresh : Fresh before (records.map CredentialRecord.id))
    (hopens : List.Forall₂ (CredentialRecord.Opens master) records credentials)
    (hcurrent : ∀ record ∈ records, record.keys.isLegacy = false) :
    (restoreCredentials master uri before records).run entropy
      = (⟨records, .ok (credentials, 0)⟩, entropy) := by
  have hrun := @restoreCredentials_append_run master entropy entropy uri before records []
    credentials ⟨[], .ok ([], 0)⟩ hfresh hopens hcurrent rfl
  simpa only [List.append_nil, Except.map] using hrun

/-- What restoring does with the first scope: its URI is invalid or listed already, its
credentials do not restore, or it gives an issuer and the other scopes follow. -/
theorem restoreScopes_run_cons
    {before : List String} {scope : ScopeRecord} {scopes : List ScopeRecord}
    {result : Restored (List ScopeRecord) (List Issuer × Nat)}
    (h : (restoreScopes master provider before (scope :: scopes)).run entropy = (result, rest)) :
    (¬ Scope.ValidUri scope.uri ∧
        result = ⟨scope :: scopes, .error (.invalidScope scope.uri)⟩) ∨
      (Scope.ValidUri scope.uri ∧ scope.uri ∈ before ∧
        result = ⟨scope :: scopes, .error (.duplicateScope scope.uri)⟩) ∨
      ∃ records outcome between,
        Scope.ValidUri scope.uri ∧
        scope.uri ∉ before ∧
        (restoreCredentials master scope.uri [] scope.credentials).run entropy
          = (⟨records, outcome⟩, between) ∧
        match outcome with
        | .error fault => result = ⟨{ scope with credentials := records } :: scopes, .error fault⟩
        | .ok (credentials, count) => ∃ later,
            (restoreScopes master provider (before ++ [scope.uri]) scopes).run between
              = (later, rest) ∧
            result = ⟨{ scope with credentials := records } :: later.records,
              later.outcome.map fun (issuers, laterCount) =>
                (Issuer.ofProvider provider scope.uri credentials :: issuers,
                  count + laterCount)⟩ := by
  by_cases hvalid : Scope.ValidUri scope.uri
  · right
    have htrue := Scope.isValid_iff.mpr hvalid
    by_cases hbefore : scope.uri ∈ before
    · rw [restoreScopes, if_neg (by simp [htrue]), if_pos hbefore] at h
      cases h
      exact Or.inl ⟨hvalid, hbefore, rfl⟩
    · rw [restoreScopes, if_neg (by simp [htrue]), if_neg hbefore] at h
      obtain ⟨⟨records, outcome⟩, between, hrun⟩ : ∃ here between,
          (restoreCredentials master scope.uri [] scope.credentials).run entropy
            = (here, between) := ⟨_, _, rfl⟩
      simp only [Random.run_bind_of_run hrun] at h
      refine Or.inr ⟨records, outcome, between, hvalid, hbefore, hrun, ?_⟩
      rcases outcome with fault | ⟨credentials, count⟩
      · cases h
        rfl
      · obtain ⟨later, last, hlater⟩ : ∃ later last,
            (restoreScopes master provider (before ++ [scope.uri]) scopes).run between
              = (later, last) := ⟨_, _, rfl⟩
        simp only [Random.run_bind_of_run hlater] at h
        cases h
        exact ⟨later, hlater, rfl⟩
  · have hfalse := Scope.isValid_eq_false_iff.mpr hvalid
    rw [restoreScopes, if_pos (by simp [hfalse])] at h
    cases h
    exact Or.inl ⟨hvalid, rfl⟩

/-- What scopes that restore give. -/
theorem restoreScopes_run_ok
    {before : List String} {scopes after : List ScopeRecord} {issuers : List Issuer} {count : Nat}
    (h : (restoreScopes master provider before scopes).run entropy
      = (⟨after, .ok (issuers, count)⟩, rest)) :
    Fresh before (scopes.map ScopeRecord.uri) ∧
      (∀ scope ∈ scopes, scope.Sound master) ∧
      List.Forall₂ (ScopeRecord.Opens master provider) scopes issuers ∧
      after = scopes.zipWith ScopeRecord.renewed issuers ∧
      count = (scopes.flatMap ScopeRecord.credentials).countP (fun record =>
        record.keys.isLegacy) ∧
      (count = 0 → rest = entropy) := by
  induction scopes generalizing before entropy after issuers count with
  | nil =>
      cases h
      exact ⟨fresh_nil_right before, by simp, .nil, rfl, rfl, fun _ => rfl⟩
  | cons scope scopes ih =>
      rcases restoreScopes_run_cons h with ⟨-, hresult⟩ | ⟨-, -, hresult⟩ |
        ⟨records, fault | ⟨credentials, hereCount⟩, between, hvalid, hbefore, hrun, hresult⟩
      · cases hresult
      · cases hresult
      · cases hresult
      · obtain ⟨⟨laterRecords, laterOutcome⟩, hlater, hresult⟩ := hresult
        rcases laterOutcome with fault | ⟨laterIssuers, laterCount⟩
        · cases hresult
        · cases hresult
          obtain ⟨hids, hkeys, hopens, hrecords, hhere, hdrawn⟩ := restoreCredentials_run_ok hrun
          obtain ⟨hfresh, hscopes, hall, hafter, hcount, hrest⟩ := ih hlater
          refine ⟨fresh_cons.mpr ⟨hbefore, hfresh⟩, ?_, .cons ⟨rfl, rfl, hopens⟩ hall, ?_, ?_, ?_⟩
          · exact List.forall_mem_cons.mpr ⟨⟨hvalid, fresh_nil_left.mp hids, hkeys⟩, hscopes⟩
          · rw [hafter, hrecords]
            rfl
          · rw [List.flatMap_cons, List.countP_append, hcount, hhere]
          · intro hnone
            obtain ⟨hnoneHere, hnoneLater⟩ := Nat.add_eq_zero_iff.mp hnone
            rw [hrest hnoneLater, hdrawn hnoneHere]

/-- Scopes of the current shape that open to some issuers restore to them, and then comes what is
listed after them. -/
theorem restoreScopes_append_run
    {before : List String} {scopes more : List ScopeRecord} {issuers : List Issuer}
    {later : Restored (List ScopeRecord) (List Issuer × Nat)}
    (hfresh : Fresh before (scopes.map ScopeRecord.uri))
    (hscopes : ∀ scope ∈ scopes, Scope.isValid scope.uri = true ∧ scope.ids.Nodup)
    (hopens : List.Forall₂ (ScopeRecord.Opens master provider) scopes issuers)
    (hcurrent : ∀ scope ∈ scopes, ∀ record ∈ scope.credentials, record.keys.isLegacy = false)
    (hmore : (restoreScopes master provider (before ++ scopes.map ScopeRecord.uri) more).run entropy
      = (later, rest)) :
    (restoreScopes master provider before (scopes ++ more)).run entropy
      = (⟨scopes ++ later.records, later.outcome.map fun (found, count) =>
          (issuers ++ found, count)⟩, rest) := by
  obtain ⟨records, outcome⟩ := later
  induction hopens generalizing before with
  | nil =>
      rw [List.map_nil, List.append_nil] at hmore
      rw [List.nil_append, hmore]
      cases outcome <;> rfl
  | @cons scope issuer scopes issuers hscope _ ih =>
      obtain ⟨hbefore, hfresh⟩ := fresh_cons.mp hfresh
      obtain ⟨⟨hvalid, hids⟩, hscopes⟩ := List.forall_mem_cons.mp hscopes
      obtain ⟨hrecords, hcurrent⟩ := List.forall_mem_cons.mp hcurrent
      have hhere := @restoreCredentials_run_of_opens master entropy scope.uri [] _ _
        (fresh_nil_left.mpr hids) hscope.credentials hrecords
      have hlater := ih hfresh hscopes hcurrent (by simpa using hmore)
      rw [List.cons_append, restoreScopes, if_neg (by simp [hvalid]), if_neg hbefore]
      simp only [Random.run_bind_of_run hhere, Random.run_bind_of_run hlater]
      obtain ⟨uri, url, credentials⟩ := issuer
      obtain ⟨rfl, rfl, -⟩ := hscope
      cases outcome with
      | error fault => rfl
      | ok value =>
          simp only [Except.map, Nat.zero_add]
          rfl

/-- What a file that restores holds and gives.  Something is drawn only if there are legacy
records. -/
theorem restore_run_ok
    {file after : StoreFile} {store : Store} {count : Nat}
    (h : (restore master provider file).run entropy = (⟨after, .ok (store, count)⟩, rest)) :
    ∃ issuers, file.WellFormed ∧
      file.Opens master provider issuers ∧
      store = ofIssuers provider issuers ∧
      after = file.renewed issuers ∧
      count = file.legacyCount ∧
      (count = 0 → rest = entropy) := by
  obtain ⟨⟨records, outcome⟩, last, hrun⟩ : ∃ scopes last,
      (restoreScopes master provider [] file.scopes).run entropy = (scopes, last) := ⟨_, _, rfl⟩
  rw [restore, Random.run_bind_of_run hrun] at h
  rcases outcome with fault | ⟨issuers, found⟩
  · cases h
  · cases h
    obtain ⟨hfresh, hscopes, hopens, hafter, hcount, hrest⟩ := restoreScopes_run_ok hrun
    have hsound : file.Sound master := ⟨fresh_nil_left.mp hfresh, hscopes⟩
    refine ⟨issuers, hsound.wellFormed, hopens, rfl, ?_, hcount, hrest⟩
    rw [hafter]
    rfl

/-- In a file that restores, nothing is wrong. -/
theorem sound_of_restore_run_ok
    {file after : StoreFile} {store : Store} {count : Nat}
    (h : (restore master provider file).run entropy = (⟨after, .ok (store, count)⟩, rest)) :
    file.Sound master := by
  obtain ⟨⟨records, outcome⟩, last, hrun⟩ : ∃ scopes last,
      (restoreScopes master provider [] file.scopes).run entropy = (scopes, last) := ⟨_, _, rfl⟩
  rw [restore, Random.run_bind_of_run hrun] at h
  rcases outcome with fault | ⟨issuers, found⟩
  · cases h
  · obtain ⟨hfresh, hscopes, -⟩ := restoreScopes_run_ok hrun
    exact ⟨fresh_nil_left.mp hfresh, hscopes⟩

/-- A file of the current shape that opens to some issuers restores to them, and is kept. -/
theorem restore_run_of_opens
    {file : StoreFile} {issuers : List Issuer}
    (hfile : file.WellFormed)
    (hopens : file.Opens master provider issuers)
    (hcurrent : file.IsCurrent) :
    (restore master provider file).run entropy
      = (⟨file, .ok (ofIssuers provider issuers, 0)⟩, entropy) := by
  have hscopes := restoreScopes_append_run (fresh_nil_left.mpr hfile.uris)
    (fun scope hscope => ⟨hfile.valid scope hscope, hfile.ids scope hscope⟩) hopens hcurrent
    (show (restoreScopes master provider _ []).run entropy = (⟨[], .ok ([], 0)⟩, entropy) from rfl)
  simp only [List.append_nil] at hscopes
  rw [restore, Random.run_bind_of_run hscopes]
  simp only [Except.map, List.append_nil]
  rfl

/-- After scopes of the current shape, an invalid URI is found. -/
theorem restore_run_of_invalid
    {file : StoreFile} {issuers : List Issuer} {scope : ScopeRecord} {more : List ScopeRecord}
    (hfile : file.WellFormed)
    (hopens : file.Opens master provider issuers)
    (hcurrent : file.IsCurrent)
    (hinvalid : Scope.isValid scope.uri = false) :
    (restore master provider ⟨file.scopes ++ scope :: more⟩).run entropy
      = (⟨⟨file.scopes ++ scope :: more⟩, .error (.invalidScope scope.uri)⟩, entropy) := by
  have hscope : (restoreScopes master provider ([] ++ file.scopes.map ScopeRecord.uri)
      (scope :: more)).run entropy
        = (⟨scope :: more, .error (.invalidScope scope.uri)⟩, entropy) := by
    rw [restoreScopes, if_pos (by simp [hinvalid])]
    rfl
  have hscopes := restoreScopes_append_run (fresh_nil_left.mpr hfile.uris)
    (fun scope hscope => ⟨hfile.valid scope hscope, hfile.ids scope hscope⟩) hopens hcurrent hscope
  rw [restore, Random.run_bind_of_run hscopes]
  rfl

end Store

section Lists

variable {α β γ : Type} {relation : α → β → Prop} {replace : α → β → α}
  {items : List α} {values : List β}

/-- Replacing each item by one that gives the same value keeps what a list gives. -/
theorem forall₂_zipWith
    (hreplace : ∀ item value, relation item value → relation (replace item value) value)
    (h : List.Forall₂ relation items values) :
    List.Forall₂ relation (items.zipWith replace values) values := by
  induction h with
  | nil => exact .nil
  | cons hitem _ ih => exact .cons (hreplace _ _ hitem) ih

/-- What replacing keeps of each item, it keeps of the list. -/
theorem map_zipWith_of_forall₂
    {view : α → γ}
    (hreplace : ∀ item value, relation item value → view (replace item value) = view item)
    (h : List.Forall₂ relation items values) :
    (items.zipWith replace values).map view = items.map view := by
  induction h with
  | nil => rfl
  | cons hitem _ ih => simp [hreplace _ _ hitem, ih]

/-- Two lists look the same in a view that both sides of a relation share. -/
theorem map_eq_of_forall₂
    {viewItem : α → γ} {viewValue : β → γ}
    (hview : ∀ item value, relation item value → viewValue value = viewItem item)
    (h : List.Forall₂ relation items values) :
    values.map viewValue = items.map viewItem := by
  induction h with
  | nil => rfl
  | cons hitem _ ih => rw [List.map_cons, List.map_cons, hview _ _ hitem, ih]

theorem exists_of_mem_right
    {value : β}
    (h : List.Forall₂ relation items values)
    (hvalue : value ∈ values) :
    ∃ item ∈ items, relation item value := by
  induction h with
  | nil => cases hvalue
  | @cons item first _ _ hitem _ ih =>
      rcases List.mem_cons.mp hvalue with rfl | hrest
      · exact ⟨item, List.mem_cons_self, hitem⟩
      · obtain ⟨found, hfound, hrelated⟩ := ih hrest
        exact ⟨found, List.mem_cons_of_mem _ hfound, hrelated⟩

/-- The only item with a property is found. -/
theorem find?_of_unique
    {p : α → Bool} {item : α}
    (hitem : item ∈ items)
    (hp : p item = true)
    (hunique : ∀ other ∈ items, p other = true → other = item) :
    items.find? p = some item := by
  cases hfind : items.find? p with
  | none =>
      have hnot := List.find?_eq_none.mp hfind item hitem
      exact absurd hp hnot
  | some found =>
      rw [hunique found (List.mem_of_find?_eq_some hfind) (List.find?_some hfind)]

/-- An item is found by its name, if no other item has the name. -/
theorem find?_of_nodup
    {name : α → String} {item : α}
    (hnames : (items.map name).Nodup)
    (hitem : item ∈ items) :
    items.find? (fun other => name other == name item) = some item := by
  refine find?_of_unique hitem (beq_self_eq_true _) ?_
  intro other hother hname
  exact List.inj_on_of_nodup_map hnames hother hitem (by simpa using hname)

end Lists

namespace ScopeRecord

variable {master : MasterKey} {provider : Provider} {scope : ScopeRecord} {issuer : Issuer}

theorem Opens.renewed
    (h : scope.Opens master provider issuer) :
    (scope.renewed issuer).Opens master provider issuer where
  uri_eq := h.uri_eq
  url_eq := h.url_eq
  credentials := forall₂_zipWith (fun _ _ => CredentialRecord.Opens.renewed) h.credentials

theorem Opens.ids_renewed
    (h : scope.Opens master provider issuer) :
    (scope.renewed issuer).ids = scope.ids :=
  map_zipWith_of_forall₂ (fun _ _ => CredentialRecord.Opens.id_renewed) h.credentials

/-- The ids of an issuer's credentials are those of its scope. -/
theorem Opens.ids_eq
    (h : scope.Opens master provider issuer) :
    issuer.credentials.map Credential.id = scope.ids :=
  map_eq_of_forall₂ (fun _ _ hrecord => hrecord.id_eq) h.credentials

/-- An issuer that a scope gives is at the scope's address, lists nothing twice, and all of its
credentials are well kept. -/
theorem Opens.wellFormed
    (h : scope.Opens master provider issuer)
    (hvalid : Scope.isValid scope.uri = true)
    (hids : scope.ids.Nodup) :
    issuer.WellFormed master provider where
  valid := h.uri_eq ▸ hvalid
  url_eq := by rw [h.url_eq, h.uri_eq]
  ids := h.ids_eq ▸ hids
  wellKept := by
    intro credential hcredential
    obtain ⟨record, -, hrecord⟩ := exists_of_mem_right h.credentials hcredential
    exact hrecord.wellKept

end ScopeRecord

namespace StoreFile

variable {master : MasterKey} {provider : Provider} {file : StoreFile} {issuers : List Issuer}

/-- No legacy record is counted exactly if there is none. -/
theorem legacyCount_eq_zero_iff :
    file.legacyCount = 0 ↔ file.IsCurrent := by
  simp only [legacyCount, IsCurrent, List.countP_eq_zero, List.mem_flatMap, Bool.not_eq_true]
  constructor
  · intro h scope hscope record hrecord
    exact h record ⟨scope, hscope, hrecord⟩
  · rintro h record ⟨scope, hscope, hrecord⟩
    exact h scope hscope record hrecord

/-- The records that are kept give the same issuers. -/
theorem Opens.renewed
    (h : file.Opens master provider issuers) :
    (file.renewed issuers).Opens master provider issuers :=
  forall₂_zipWith (fun _ _ => ScopeRecord.Opens.renewed) h

/-- The records that are kept have the same places. -/
theorem Opens.outline_renewed
    (h : file.Opens master provider issuers) :
    (file.renewed issuers).outline = file.outline :=
  map_zipWith_of_forall₂ (fun scope issuer hscope => by
    rw [hscope.ids_renewed]
    rfl) h

/-- Being well-formed is a matter of the outline. -/
theorem wellFormed_iff_outline :
    file.WellFormed ↔ (file.outline.map Prod.fst).Nodup ∧
      ∀ entry ∈ file.outline, Scope.isValid entry.1 = true ∧ entry.2.Nodup := by
  have huris : file.outline.map Prod.fst = file.scopes.map ScopeRecord.uri := by
    simp [outline]
  constructor
  · rintro ⟨hnodup, hvalid, hids⟩
    refine ⟨huris ▸ hnodup, ?_⟩
    intro entry hentry
    obtain ⟨scope, hscope, rfl⟩ := List.mem_map.mp hentry
    exact ⟨hvalid scope hscope, hids scope hscope⟩
  · rintro ⟨hnodup, hentries⟩
    have hscope (scope : ScopeRecord) (hmem : scope ∈ file.scopes) :=
      hentries _ (List.mem_map_of_mem hmem)
    exact ⟨huris ▸ hnodup, fun scope hmem => (hscope scope hmem).1,
      fun scope hmem => (hscope scope hmem).2⟩

theorem WellFormed.renewed
    (hfile : file.WellFormed)
    (h : file.Opens master provider issuers) :
    (file.renewed issuers).WellFormed := by
  rw [wellFormed_iff_outline, h.outline_renewed]
  exact wellFormed_iff_outline.mp hfile

end StoreFile

namespace Store

/-- One of the issuers is the root, all of them are well-formed, and no two are at the same URI. -/
structure WellFormed
    (master : MasterKey)
    (provider : Provider)
    (store : Store) : Prop where
  root_mem : store.root ∈ store.issuers
  root_uri : store.root.uri = ""
  uris : (store.issuers.map Issuer.uri).Nodup
  issuers : ∀ issuer ∈ store.issuers, issuer.WellFormed master provider

variable {master : MasterKey} {provider : Provider} {entropy rest : Entropy}

/-- Issuers at different URIs make a store; where there is no root among them, one is added. -/
theorem ofIssuers_wellFormed
    {issuers : List Issuer}
    (huris : (issuers.map Issuer.uri).Nodup)
    (hissuers : ∀ issuer ∈ issuers, issuer.WellFormed master provider) :
    (ofIssuers provider issuers).WellFormed master provider := by
  unfold ofIssuers
  split
  · next root hroot =>
    exact ⟨List.mem_of_find?_eq_some hroot, by simpa using List.find?_some hroot, huris, hissuers⟩
  · next hnone =>
    have hfresh : "" ∉ issuers.map Issuer.uri := by
      intro hmem
      obtain ⟨issuer, hissuer, huri⟩ := List.mem_map.mp hmem
      exact List.find?_eq_none.mp hnone issuer hissuer (by simpa using huri)
    refine ⟨by simp, rfl, ?_, ?_⟩
    · rw [List.map_append, List.nodup_append]
      refine ⟨huris, by simp, ?_⟩
      rintro uri huri other hother rfl
      obtain rfl : uri = "" := by simpa [Issuer.ofProvider] using hother
      exact hfresh huri
    · intro issuer hissuer
      rcases List.mem_append.mp hissuer with hmem | hroot
      · exact hissuers issuer hmem
      · obtain rfl : issuer = Issuer.ofProvider provider "" [] := by simpa using hroot
        exact ⟨show Scope.isValid "" = true by decide, rfl, List.nodup_nil,
          by simp [Issuer.ofProvider]⟩

/-- The store of the issuers that a well-formed file opens to is well-formed. -/
theorem wellFormed_of_opens
    {file : StoreFile} {issuers : List Issuer}
    (hfile : file.WellFormed)
    (hopens : file.Opens master provider issuers) :
    (ofIssuers provider issuers).WellFormed master provider := by
  apply ofIssuers_wellFormed
  · have huris := map_eq_of_forall₂ (fun _ _ hscope => ScopeRecord.Opens.uri_eq hscope) hopens
    rw [huris]
    exact hfile.uris
  · intro issuer hissuer
    obtain ⟨scope, hscope, hrelated⟩ := exists_of_mem_right hopens hissuer
    exact hrelated.wellFormed (hfile.valid scope hscope) (hfile.ids scope hscope)

/-- A store that was restored is well-formed. -/
theorem restore_wellFormed
    {file after : StoreFile} {store : Store} {count : Nat}
    (h : (restore master provider file).run entropy = (⟨after, .ok (store, count)⟩, rest)) :
    store.WellFormed master provider := by
  obtain ⟨issuers, hfile, hopens, rfl, -⟩ := restore_run_ok h
  exact wellFormed_of_opens hfile hopens

end Store

/-- An issuer at a valid URI with one credential that is well kept. -/
theorem Issuer.ofProvider_wellFormed
    {master : MasterKey} {credential : Credential} {uri : String}
    (hvalid : Scope.isValid uri = true)
    (hkept : credential.WellKept master)
    (provider : Provider) :
    (ofProvider provider uri [credential]).WellFormed master provider where
  valid := hvalid
  url_eq := rfl
  ids := List.nodup_singleton credential.id
  wellKept := List.forall_mem_singleton.mpr hkept

/-- The file that keeps the credentials of issuers. -/
def StoreFile.ofIssuers (issuers : List Issuer) : StoreFile :=
  ⟨issuers.map fun issuer => ⟨issuer.uri, issuer.credentials.map Credential.toRecord⟩⟩

section

variable {master : MasterKey} {provider : Provider} {issuers : List Issuer}

theorem StoreFile.ofIssuers_isCurrent
    (issuers : List Issuer) :
    (ofIssuers issuers).IsCurrent := by
  intro scope hscope record hrecord
  obtain ⟨issuer, -, rfl⟩ := List.mem_map.mp hscope
  obtain ⟨credential, -, rfl⟩ := List.mem_map.mp hrecord
  rfl

theorem StoreFile.ofIssuers_wellFormed
    (huris : (issuers.map Issuer.uri).Nodup)
    (hissuers : ∀ issuer ∈ issuers, issuer.WellFormed master provider) :
    (ofIssuers issuers).WellFormed where
  uris := by simpa [ofIssuers, Function.comp_def] using huris
  valid := by
    intro scope hscope
    obtain ⟨issuer, hissuer, rfl⟩ := List.mem_map.mp hscope
    exact (hissuers issuer hissuer).valid
  ids := by
    intro scope hscope
    obtain ⟨issuer, hissuer, rfl⟩ := List.mem_map.mp hscope
    simpa [ScopeRecord.ids, Credential.toRecord, Function.comp_def] using
      (hissuers issuer hissuer).ids

theorem StoreFile.ofIssuers_opens
    (hissuers : ∀ issuer ∈ issuers, issuer.WellFormed master provider) :
    (ofIssuers issuers).Opens master provider issuers := by
  refine List.forall₂_map_left_iff.mpr (List.forall₂_same.mpr ?_)
  intro issuer hissuer
  refine ⟨rfl, (hissuers issuer hissuer).url_eq, ?_⟩
  refine List.forall₂_map_left_iff.mpr (List.forall₂_same.mpr ?_)
  intro credential hcredential
  exact ((hissuers issuer hissuer).wellKept credential hcredential).toRecord_opens

/-- Well-formed issuers at different URIs are restored from the file that keeps them. -/
theorem Store.restore_run_ofIssuers
    (huris : (issuers.map Issuer.uri).Nodup)
    (hissuers : ∀ issuer ∈ issuers, issuer.WellFormed master provider)
    (entropy : Entropy) :
    (restore master provider (.ofIssuers issuers)).run entropy
      = (⟨.ofIssuers issuers, .ok (ofIssuers provider issuers, 0)⟩, entropy) :=
  restore_run_of_opens (StoreFile.ofIssuers_wellFormed huris hissuers)
    (StoreFile.ofIssuers_opens hissuers) (StoreFile.ofIssuers_isCurrent issuers)

end

/-- A well-kept credential is restored from a file with nothing else in it. -/
theorem Store.restore_run_single
    {master : MasterKey} {credential : Credential} {uri : String}
    (hvalid : Scope.isValid uri = true)
    (hkept : credential.WellKept master)
    (provider : Provider) (entropy : Entropy) :
    (restore master provider (.ofIssuers [.ofProvider provider uri [credential]])).run entropy
      = (⟨.ofIssuers [.ofProvider provider uri [credential]],
        .ok (ofIssuers provider [.ofProvider provider uri [credential]], 0)⟩, entropy) := by
  have hissuer := Issuer.ofProvider_wellFormed hvalid hkept provider
  refine restore_run_ofIssuers ?_ (List.forall_mem_singleton.mpr hissuer) entropy
  exact List.nodup_singleton uri

end WorkloadIdentity
