import WorkloadIdentity.Proofs.Scope.Ancestry
import WorkloadIdentity.Proofs.Store.Saving

/-!
# Saving is an update of one entry

A record that is saved stands at one place, under its scope and its id.  It is put where a record
already is at this place, or comes last: in its scope, or in a scope of its own.  At all other
places the file and the stores that it restores to are as before, and so the order of two saves at
different places cannot be told from what is found.

* `StoreFile.save_updated`: what saving does to the file.
* `StoreFile.record?_save`: what is found in a file after saving.
* `Store.credential?_opens`: what is found in a store is what the record that is found gives.
* `Store.save_exact`: saving in a file that restores.
-/

namespace WorkloadIdentity

namespace StoreFile

variable {file : StoreFile} {uri : String} {record : CredentialRecord}

/-- The record with an id in the scope at a URI. -/
def record?
    (file : StoreFile)
    (uri id : String) : Option CredentialRecord :=
  (file.scopes.find? fun scope => scope.uri == uri).bind fun scope =>
    scope.credentials.find? fun record => record.id == id

theorem record?_cons
    (scope : ScopeRecord) (scopes : List ScopeRecord) (uri id : String) :
    record? ⟨scope :: scopes⟩ uri id
      = if uri = scope.uri then scope.credentials.find? fun record => record.id == id
        else record? ⟨scopes⟩ uri id := by
  rw [record?, find?_cons_name ScopeRecord.uri]
  split <;> rfl

/-- The records at all places but one, each with its scope's URI, in the file's order. -/
def elsewhere
    (file : StoreFile)
    (uri id : String) : List (String × CredentialRecord) :=
  file.scopes.flatMap fun scope =>
    (scope.credentials.map fun record => (scope.uri, record)).filter fun entry =>
      entry.1 ≠ uri ∨ entry.2.id ≠ id

/-- The update of the place of a record. -/
inductive Updated
    (uri : String)
    (record : CredentialRecord) : StoreFile → StoreFile → Prop
  /-- The record takes the place of the one with its id. -/
  | replaced {before after : List ScopeRecord} {earlier later : List CredentialRecord}
      {old : CredentialRecord}
      (huri : ∀ scope ∈ before, scope.uri ≠ uri)
      (hearlier : ∀ other ∈ earlier, other.id ≠ record.id)
      (hold : old.id = record.id) :
      Updated uri record ⟨before ++ ⟨uri, earlier ++ old :: later⟩ :: after⟩
        ⟨before ++ ⟨uri, earlier ++ record :: later⟩ :: after⟩
  /-- The record comes last in the scope. -/
  | added {before after : List ScopeRecord} {listed : List CredentialRecord}
      (huri : ∀ scope ∈ before, scope.uri ≠ uri)
      (hlisted : ∀ other ∈ listed, other.id ≠ record.id) :
      Updated uri record ⟨before ++ ⟨uri, listed⟩ :: after⟩
        ⟨before ++ ⟨uri, listed ++ [record]⟩ :: after⟩
  /-- The record comes last in the file, in a scope of its own. -/
  | opened {scopes : List ScopeRecord}
      (huri : ∀ scope ∈ scopes, scope.uri ≠ uri) :
      Updated uri record ⟨scopes⟩ ⟨scopes ++ [⟨uri, [record]⟩]⟩

end StoreFile

/-- The saved record is found under its id, and under every other id is found what was. -/
theorem ScopeRecord.find?_save
    (scope : ScopeRecord) (record : CredentialRecord) (id : String) :
    (scope.save record).credentials.find? (fun other => other.id == id)
      = if id = record.id then some record
        else scope.credentials.find? fun other => other.id == id := by
  obtain ⟨uri, credentials⟩ := scope
  simp only [save]
  induction credentials with
  | nil => rw [save.replaceOrAppend, find?_cons_name CredentialRecord.id]
  | cons first credentials ih =>
      rw [save.replaceOrAppend, find?_cons_name CredentialRecord.id]
      by_cases hid : first.id = record.id
      · rw [if_pos hid, find?_cons_name CredentialRecord.id, hid]
        split <;> rfl
      · rw [if_neg hid, find?_cons_name CredentialRecord.id, ih]
        by_cases hfirst : id = first.id
        · rw [if_pos hfirst, if_pos hfirst, if_neg (hfirst ▸ hid)]
        · rw [if_neg hfirst, if_neg hfirst]

namespace StoreFile

variable {file saved : StoreFile} {uri : String} {record : CredentialRecord}

/-- Saving updates the place of the record. -/
theorem save_updated
    (file : StoreFile) (uri : String) (record : CredentialRecord) :
    Updated uri record file (file.save uri record) := by
  rcases file.save_cases uri record with ⟨before, ⟨here, listed⟩, after, hsplit, hbefore, rfl, hsaved⟩
    | ⟨hnew, hsaved⟩
  · obtain ⟨scopes⟩ := file
    obtain rfl : scopes = _ := hsplit
    rw [hsaved]
    rcases ScopeRecord.save_cases ⟨here, listed⟩ record with
      ⟨earlier, old, later, hlisted, hearlier, hold, hput⟩ | ⟨hlisted, hput⟩
    · obtain rfl : listed = _ := hlisted
      rw [hput]
      exact .replaced hbefore hearlier hold
    · rw [hput]
      exact .added hbefore hlisted
  · rw [hsaved]
    exact .opened hnew

/-- An update leaves everything else as it was. -/
theorem Updated.elsewhere_eq
    (h : Updated uri record file saved) :
    saved.elsewhere uri record.id = file.elsewhere uri record.id := by
  cases h with
  | replaced huri hearlier hold => simp [elsewhere, hold]
  | added huri hlisted => simp [elsewhere]
  | opened huri => simp [elsewhere]

/-- The saved record is found at its place, and at every other place is found what was. -/
theorem record?_save
    (file : StoreFile) (uri : String) (record : CredentialRecord) (other id : String) :
    (file.save uri record).record? other id
      = if other = uri ∧ id = record.id then some record else file.record? other id := by
  obtain ⟨scopes⟩ := file
  simp only [save]
  induction scopes with
  | nil =>
      rw [save.saveIn, record?_cons, ScopeRecord.find?_save, ite_and]
      rfl
  | cons scope scopes ih =>
      rw [save.saveIn, record?_cons]
      by_cases huri : scope.uri = uri
      · rw [if_pos huri, record?_cons, ScopeRecord.find?_save, ite_and]
        rw [show (scope.save record).uri = uri from huri, huri]
        split <;> rfl
      · rw [if_neg huri, record?_cons, ih]
        by_cases hother : other = scope.uri
        · rw [if_pos hother, if_pos hother, if_neg fun h => huri (hother ▸ h.1)]
        · rw [if_neg hother, if_neg hother]

/-- Two saves at different places are found to be the same in either order. -/
theorem record?_save_comm
    {other : String} {another : CredentialRecord}
    (file : StoreFile)
    (hne : ¬ (other = uri ∧ another.id = record.id))
    (place id : String) :
    ((file.save uri record).save other another).record? place id
      = ((file.save other another).save uri record).record? place id := by
  simp only [record?_save]
  by_cases hhere : place = uri ∧ id = record.id
  · rw [if_pos hhere, if_pos hhere, if_neg]
    rintro ⟨hplace, hid⟩
    exact hne ⟨hplace.symm.trans hhere.1, hid.symm.trans hhere.2⟩
  · rw [if_neg hhere, if_neg hhere]

/-- Saving a record whose keys open in a valid scope leaves nothing wrong in a file. -/
theorem Sound.save
    {master : MasterKey}
    (h : file.Sound master)
    (huri : Scope.ValidUri uri)
    (hrecord : record.KeysOpen master) :
    (file.save uri record).Sound master := by
  have hfile : (file.save uri record).WellFormed :=
    h.wellFormed.save (Scope.isValid_iff.mpr huri)
  refine ⟨hfile.uris, fun scope hscope => ?_⟩
  refine ⟨Scope.isValid_iff.mp (hfile.valid scope hscope), hfile.ids scope hscope, ?_⟩
  intro other hother
  rcases mem_save hscope with hold | ⟨old, hold, -, rfl⟩
  · exact (h.scopes scope hold).keys other hother
  · rcases ScopeRecord.mem_save hother with rfl | hmem
    · exact hrecord
    · rcases hold with hold | rfl
      · exact (h.scopes old hold).keys other hmem
      · cases hmem

/-- A file after a record was saved in it. -/
structure Saves
    (file : StoreFile)
    (uri : String)
    (record : CredentialRecord)
    (saved : StoreFile) : Prop where
  /-- No URI and no id in a scope is listed twice, and all URIs are valid. -/
  wellFormed : saved.WellFormed
  /-- The record is put where one with its id was, or comes last. -/
  updated : file.Updated uri record saved
  found : ∀ other id, saved.record? other id
    = if other = uri ∧ id = record.id then some record else file.record? other id
  /-- The other records are still in their order. -/
  elsewhere : saved.elsewhere uri record.id = file.elsewhere uri record.id

end StoreFile

/-- A store finds under an id what the record that a scope has there gives. -/
theorem find?_opens
    {master : MasterKey} {records : List CredentialRecord} {credentials : List Credential}
    (h : List.Forall₂ (CredentialRecord.Opens master) records credentials)
    (id : String) :
    Option.Rel (CredentialRecord.Opens master)
      (records.find? fun record => record.id == id)
      (credentials.find? fun credential => credential.id == id) := by
  induction h with
  | nil => exact .none
  | cons hrecord _ ih =>
      rw [find?_cons_name CredentialRecord.id, find?_cons_name Credential.id, hrecord.id_eq]
      split
      · exact .some hrecord
      · exact ih

/-- What is found at two places looks like one credential, which a record gave both times.  Where
this has the legacy shape, the encrypted forms of the keys may be different. -/
structure Credential.FoundAlike
    (listed : Option CredentialRecord)
    (found other : Option Credential) : Prop where
  unsealed : found.map unsealed = other.map unsealed
  current : (∀ record ∈ listed, record.keys.isLegacy = false) → found = other

/-- A record gives credentials that look like one. -/
theorem Credential.foundAlike_of_opens
    {master : MasterKey} {listed : Option CredentialRecord} {found other : Option Credential}
    (h : Option.Rel (CredentialRecord.Opens master) listed found)
    (hother : Option.Rel (CredentialRecord.Opens master) listed other) :
    FoundAlike listed found other := by
  cases h with
  | none =>
      cases hother
      exact ⟨rfl, fun _ => rfl⟩
  | some hopens =>
      cases hother with
      | some hsame =>
          refine ⟨congrArg some (hopens.unsealed_eq hsame), ?_⟩
          intro hcurrent
          rw [hopens.unique hsame (hcurrent _ rfl)]

/-- A record whose keys open is restored to what it gives. -/
theorem CredentialRecord.KeysOpen.restore_run
    {master : MasterKey} {record : CredentialRecord}
    (h : record.KeysOpen master)
    (entropy : Entropy) :
    ∃ credential migrated rest,
      (Credential.restore master record).run entropy = (.ok (credential, migrated), rest) ∧
        record.Opens master credential := by
  obtain ⟨pair, hpair⟩ := h
  have hrun := Credential.restore_run master record entropy
  simp only [KeyRecord.opened_eq_ok_iff.mpr hpair] at hrun
  obtain ⟨credential, rest, hrun, -⟩ := hrun
  exact ⟨credential, _, rest, hrun, (Credential.restore_run_ok hrun).1⟩

namespace Store

variable {master : MasterKey} {provider : Provider} {file : StoreFile} {issuers : List Issuer}

/-- A store finds what the record in its file gives. -/
theorem credential?_opens
    (hopens : file.Opens master provider issuers)
    (uri id : String) :
    Option.Rel (CredentialRecord.Opens master)
      (file.record? uri id) ((ofIssuers provider issuers).credential? uri id) := by
  rw [credential?_ofIssuers]
  obtain ⟨scopes⟩ := file
  simp only [StoreFile.Opens] at hopens
  induction hopens with
  | nil => exact .none
  | cons hscope _ ih =>
      rw [StoreFile.record?_cons, Scope.credential?_cons, hscope.uri_eq]
      split
      · exact find?_opens hscope.credentials id
      · exact ih

/-- What a store finds after its file was restored. -/
theorem credential?_of_restore_run
    {after : StoreFile} {store : Store} {count : Nat} {entropy rest : Entropy}
    (h : (restore master provider file).run entropy = (⟨after, .ok (store, count)⟩, rest))
    (uri id : String) :
    Option.Rel (CredentialRecord.Opens master) (file.record? uri id) (store.credential? uri id) := by
  obtain ⟨issuers, -, hopens, rfl, -⟩ := restore_run_ok h
  exact credential?_opens hopens uri id

/-- A store that is restored after a record was saved. -/
structure Gains
    (master : MasterKey)
    (file : StoreFile)
    (store : Store)
    (uri : String)
    (record : CredentialRecord)
    (again : Store) : Prop where
  /-- Under the scope and the id of the record there is what the record is restored to. -/
  restored : ∀ supply, ∃ credential migrated left,
    (Credential.restore master record).run supply = (.ok (credential, migrated), left) ∧
      Credential.FoundAlike (some record) (again.credential? uri record.id) (some credential)
  others : ∀ other id, ¬ (other = uri ∧ id = record.id) →
    Credential.FoundAlike (file.record? other id)
      (again.credential? other id) (store.credential? other id)

/-- Two files that cannot be told apart by what is found in them, nor by what is found in the stores
that they restore to. -/
structure FindAlike
    (master : MasterKey)
    (provider : Provider)
    (file other : StoreFile) : Prop where
  records : ∀ uri id, file.record? uri id = other.record? uri id
  credentials : ∀ supply later, ∃ after store count rest kept another number left,
    (restore master provider file).run supply = (⟨after, .ok (store, count)⟩, rest) ∧
      (restore master provider other).run later = (⟨kept, .ok (another, number)⟩, left) ∧
      ∀ uri id, Credential.FoundAlike (file.record? uri id)
        (store.credential? uri id) (another.credential? uri id)

/-- Files in which nothing is wrong and the same records are found cannot be told apart by what is
found. -/
theorem findAlike_of_sound
    {other : StoreFile}
    (provider : Provider)
    (hfile : file.Sound master)
    (hother : other.Sound master)
    (hrecords : ∀ uri id, file.record? uri id = other.record? uri id) :
    FindAlike master provider file other := by
  refine ⟨hrecords, fun supply later => ?_⟩
  obtain ⟨after, store, count, rest, hrun⟩ := restore_run_of_sound master provider hfile supply
  obtain ⟨kept, another, number, left, hanother⟩ :=
    restore_run_of_sound master provider hother later
  refine ⟨after, store, count, rest, kept, another, number, left, hrun, hanother, ?_⟩
  intro uri id
  have hthere := credential?_of_restore_run hanother uri id
  rw [← hrecords] at hthere
  exact Credential.foundAlike_of_opens (credential?_of_restore_run hrun uri id) hthere

/-- Saving a record whose keys open in a valid scope of a file that restores is an update of one
place.  The file then restores again, and its store finds the record's credential at the place and
at every other place what was found before.  Of two saves at different places, none can be told to
have come first by what is found. -/
theorem save_exact
    {after : StoreFile} {store : Store} {count : Nat} {entropy rest : Entropy}
    {uri : String} {record : CredentialRecord}
    (h : (restore master provider file).run entropy = (⟨after, .ok (store, count)⟩, rest))
    (huri : Scope.ValidUri uri)
    (hrecord : record.KeysOpen master) :
    file.Saves uri record (file.save uri record) ∧
      (∀ supply, ∃ kept again number left,
        (restore master provider (file.save uri record)).run supply
            = (⟨kept, .ok (again, number)⟩, left) ∧
          Gains master file store uri record again) ∧
      ∀ other another, Scope.ValidUri other → another.KeysOpen master →
        ¬ (other = uri ∧ another.id = record.id) →
          FindAlike master provider
            ((file.save uri record).save other another) ((file.save other another).save uri record) := by
  have hfile := sound_of_restore_run_ok h
  have hsaved := hfile.save huri hrecord
  have hfound := StoreFile.record?_save file uri record
  have hupdated := StoreFile.save_updated file uri record
  refine ⟨⟨hsaved.wellFormed, hupdated, hfound, hupdated.elsewhere_eq⟩, ?_, ?_⟩
  · intro supply
    obtain ⟨kept, again, number, left, hrun⟩ :=
      restore_run_of_sound master provider hsaved supply
    have hagain := credential?_of_restore_run hrun
    refine ⟨kept, again, number, left, hrun, ?_, ?_⟩
    · intro supply
      obtain ⟨credential, migrated, left, hrestored, hopens⟩ := hrecord.restore_run supply
      have hhere := hagain uri record.id
      rw [hfound, if_pos ⟨rfl, rfl⟩] at hhere
      exact ⟨credential, migrated, left, hrestored,
        Credential.foundAlike_of_opens hhere (.some hopens)⟩
    · intro other id hne
      have hthere := hagain other id
      rw [hfound, if_neg hne] at hthere
      exact Credential.foundAlike_of_opens hthere (credential?_of_restore_run h other id)
  · intro other another hother hanother hne
    exact findAlike_of_sound provider (hsaved.save hother hanother)
      ((hfile.save hother hanother).save huri hrecord) (StoreFile.record?_save_comm file hne)

/-- The root's credential is saved in the scope below, which holds one with the same id. -/
theorem nested_save_exact :
    ∃ outer inner store,
      (∀ entropy, (restore .uniform sampleProvider (nestedFile outer inner)).run entropy
        = (⟨nestedFile outer inner, .ok (store, 0)⟩, entropy)) ∧
      (nestedFile outer inner).Saves "/job" ⟨"deploy", none, none, none, .current outer⟩
        ((nestedFile outer inner).save "/job" ⟨"deploy", none, none, none, .current outer⟩) ∧
      FindAlike .uniform sampleProvider
        (((nestedFile outer inner).save "/job" ⟨"deploy", none, none, none, .current outer⟩).save
          "/job/team" ⟨"deploy", none, none, none, .current inner⟩)
        (((nestedFile outer inner).save "/job/team"
          ⟨"deploy", none, none, none, .current inner⟩).save
          "/job" ⟨"deploy", none, none, none, .current outer⟩) := by
  obtain ⟨outerBytes, houter⟩ := KeyPair.privateBytes_least
  obtain ⟨innerBytes, hinner⟩ := KeyPair.privateBytes_small
  obtain ⟨outer, inner, hrun⟩ := nested_restore_run houter hinner .uniform sampleProvider
  have hsound := sound_of_restore_run_ok (hrun ⟨fun _ => 0, 0⟩)
  obtain ⟨hroot, hbelow⟩ := List.forall_mem_cons.mp hsound.scopes
  have hjob := hbelow _ List.mem_cons_self
  obtain ⟨hsaves, -, hcomm⟩ := save_exact (hrun ⟨fun _ => 0, 0⟩)
    (Scope.isValid_iff.mp (by decide : Scope.isValid "/job" = true))
    (hroot.keys _ List.mem_cons_self)
  exact ⟨outer, inner, _, hrun, hsaves, hcomm "/job/team" _
    (Scope.isValid_iff.mp (by decide)) (hjob.keys _ List.mem_cons_self) (by simp)⟩

end Store
end WorkloadIdentity
