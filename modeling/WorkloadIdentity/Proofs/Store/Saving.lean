import WorkloadIdentity.Proofs.Store.Restoring

/-!
# Saving a credential in a file's records

A record that is saved takes the place of the one with its id in its scope, or comes at the end of
the scope; a scope that is not there comes at the end of the file.  What opened before still opens,
and the saved record opens to its credential.

* `ScopeRecord.save_cases` and `StoreFile.save_cases`: the places where a record can be put.
* `StoreFile.Opens.save`: what the records give after a credential was saved.
* `StoreFile.isCurrent_save_iff`: which legacy records are gone after saving.
* `StoreFile.WellFormed.save`: saving in a valid scope keeps a file well-formed.
-/

namespace WorkloadIdentity

/-- The names with one more, unless it is there. -/
def withName (names : List String) (name : String) : List String :=
  if name ∈ names then names else names ++ [name]

theorem mem_withName_self
    (names : List String) (name : String) :
    name ∈ withName names name := by
  unfold withName
  split
  · assumption
  · exact List.mem_append_right _ List.mem_cons_self

theorem nodup_withName
    {names : List String} {name : String}
    (h : names.Nodup) :
    (withName names name).Nodup := by
  unfold withName
  split
  · exact h
  · next hmem =>
    rw [List.nodup_append]
    refine ⟨h, by simp, ?_⟩
    rintro other hother found hfound rfl
    rw [List.mem_singleton] at hfound
    exact hmem (hfound ▸ hother)

/-- An item is found by its name at the head of a list, or behind it. -/
theorem find?_cons_name
    {α : Type} (nameOf : α → String) (item : α) (items : List α) (name : String) :
    (item :: items).find? (fun other => nameOf other == name)
      = if name = nameOf item then some item
        else items.find? fun other => nameOf other == name := by
  by_cases h : name = nameOf item
  · rw [if_pos h, List.find?_cons_of_pos (by simpa using h.symm)]
  · rw [if_neg h, List.find?_cons_of_neg (by simpa using Ne.symm h)]

/-- The credential with an id of the issuer at a URI. -/
def Scope.credential?
    (issuers : List Issuer)
    (uri id : String) :
    Option Credential :=
  (find? issuers uri).bind fun issuer =>
    issuer.credentials.find? fun credential => credential.id == id

theorem Scope.credential?_cons
    (issuer : Issuer) (issuers : List Issuer) (uri id : String) :
    credential? (issuer :: issuers) uri id
      = if uri = issuer.uri then
          issuer.credentials.find? fun credential => credential.id == id
        else credential? issuers uri id := by
  rw [credential?, find?, find?_cons_name Issuer.uri]
  split <;> rfl

namespace ScopeRecord

variable {master : MasterKey} {provider : Provider} {scope : ScopeRecord} {issuer : Issuer}
  {record : CredentialRecord} {credential : Credential}

/-- A record that is saved takes the place of the first one with its id, or comes last. -/
theorem save_cases
    (scope : ScopeRecord) (record : CredentialRecord) :
    (∃ earlier old later, scope.credentials = earlier ++ old :: later ∧
        (∀ other ∈ earlier, other.id ≠ record.id) ∧ old.id = record.id ∧
        scope.save record = ⟨scope.uri, earlier ++ record :: later⟩) ∨
      (∀ other ∈ scope.credentials, other.id ≠ record.id) ∧
        scope.save record = ⟨scope.uri, scope.credentials ++ [record]⟩ := by
  obtain ⟨uri, credentials⟩ := scope
  simp only [save, mk.injEq, true_and]
  induction credentials with
  | nil => exact Or.inr ⟨by simp, rfl⟩
  | cons first credentials ih =>
      rw [save.replaceOrAppend]
      by_cases hid : first.id = record.id
      · rw [if_pos hid]
        exact Or.inl ⟨[], first, credentials, rfl, by simp, hid, rfl⟩
      · rw [if_neg hid]
        rcases ih with ⟨earlier, old, later, hsplit, hearlier, hold, hsaved⟩ | ⟨hnew, hsaved⟩
        · exact Or.inl ⟨first :: earlier, old, later, by rw [hsplit, List.cons_append],
            List.forall_mem_cons.mpr ⟨hid, hearlier⟩, hold, by rw [hsaved, List.cons_append]⟩
        · exact Or.inr ⟨List.forall_mem_cons.mpr ⟨hid, hnew⟩, by rw [hsaved, List.cons_append]⟩

theorem ids_save
    (scope : ScopeRecord) (record : CredentialRecord) :
    (scope.save record).ids = withName scope.ids record.id := by
  rcases scope.save_cases record with ⟨earlier, old, later, hsplit, -, hold, hsaved⟩ |
    ⟨hnew, hsaved⟩
  · rw [withName, if_pos (by simp [ids, hsplit, hold]), hsaved, ids, ids, hsplit]
    simp [hold]
  · rw [withName, if_neg (by simpa [ids] using hnew), hsaved]
    simp [ids]

/-- Every record after saving was there, or is the one saved. -/
theorem mem_save
    {other : CredentialRecord}
    (h : other ∈ (scope.save record).credentials) :
    other = record ∨ other ∈ scope.credentials := by
  rcases scope.save_cases record with ⟨earlier, old, later, hsplit, -, -, hsaved⟩ | ⟨-, hsaved⟩
  · rw [hsaved] at h
    rw [hsplit]
    simp only [List.mem_append, List.mem_cons] at h ⊢
    tauto
  · rw [hsaved] at h
    simpa [or_comm] using h

/-- The saved record is there. -/
theorem mem_save_self
    (scope : ScopeRecord) (record : CredentialRecord) :
    record ∈ (scope.save record).credentials := by
  rcases scope.save_cases record with ⟨earlier, old, later, -, -, -, hsaved⟩ | ⟨-, hsaved⟩
  · simp [hsaved]
  · simp [hsaved]

/-- Every record is still there after saving, unless it has the id of the one saved. -/
theorem mem_save_of_mem
    {other : CredentialRecord}
    (h : other ∈ scope.credentials) :
    other ∈ (scope.save record).credentials ∨ other.id = record.id := by
  rcases scope.save_cases record with ⟨earlier, old, later, hsplit, -, hold, hsaved⟩ | ⟨-, hsaved⟩
  · rw [hsplit] at h
    rcases List.mem_append.mp h with hearlier | h
    · exact Or.inl (by simp [hsaved, hearlier])
    · rcases List.mem_cons.mp h with rfl | hlater
      · exact Or.inr hold
      · exact Or.inl (by simp [hsaved, hlater])
  · exact Or.inl (by simp [hsaved, h])

/-- The saved record gives the credential with its id, and every other id gives what it gave. -/
theorem Opens.save
    (h : scope.Opens master provider issuer)
    (hrecord : record.Opens master credential) :
    ∃ saved, (scope.save record).Opens master provider saved ∧
      ∀ id, saved.credentials.find? (fun other => other.id == id)
        = if id = record.id then some credential
          else issuer.credentials.find? fun other => other.id == id := by
  obtain ⟨uri, credentials⟩ := scope
  obtain ⟨huri, hurl, hall⟩ := h
  have hlist : ∃ saved, List.Forall₂ (CredentialRecord.Opens master)
      (save.replaceOrAppend record credentials) saved ∧
        ∀ id, saved.find? (fun other => other.id == id)
          = if id = record.id then some credential
            else issuer.credentials.find? fun other => other.id == id := by
    simp only at hall
    clear huri hurl
    generalize issuer.credentials = opened at hall
    have hid := hrecord.id_eq
    induction hall with
    | nil =>
        refine ⟨[credential], .cons hrecord .nil, ?_⟩
        intro id
        rw [find?_cons_name Credential.id, hid]
    | @cons other first others rest hother hothers ih =>
        have hfirst := hother.id_eq
        by_cases hsame : other.id = record.id
        · refine ⟨credential :: rest, ?_, ?_⟩
          · rw [save.replaceOrAppend, if_pos hsame]
            exact .cons hrecord hothers
          · intro id
            rw [find?_cons_name Credential.id, find?_cons_name Credential.id, hid, hfirst, hsame]
            split <;> rfl
        · obtain ⟨saved, hsaved, hfind⟩ := ih
          refine ⟨first :: saved, ?_, ?_⟩
          · rw [save.replaceOrAppend, if_neg hsame]
            exact .cons hother hsaved
          · intro id
            rw [find?_cons_name Credential.id, find?_cons_name Credential.id, hfind, hfirst]
            by_cases hother : id = other.id
            · rw [if_pos hother, if_pos hother, if_neg (hother ▸ hsame)]
            · rw [if_neg hother, if_neg hother]
  obtain ⟨saved, hsaved, hfind⟩ := hlist
  exact ⟨⟨issuer.uri, issuer.url, saved⟩, ⟨huri, hurl, hsaved⟩, hfind⟩

end ScopeRecord

namespace StoreFile

variable {master : MasterKey} {provider : Provider} {file : StoreFile} {issuers : List Issuer}
  {uri : String} {record : CredentialRecord} {credential : Credential}

/-- The store without scopes is well-formed, opens to no issuers and holds no legacy keys. -/
theorem empty_opens
    (master : MasterKey) (provider : Provider) :
    empty.WellFormed ∧ empty.Opens master provider [] ∧ empty.IsCurrent := by
  refine ⟨⟨List.nodup_nil, ?_, ?_⟩, .nil, ?_⟩ <;>
    · intro scope hscope
      cases hscope

/-- A record is saved in the first scope at the URI, or in one of its own, which comes last. -/
theorem save_cases
    (file : StoreFile) (uri : String) (record : CredentialRecord) :
    (∃ before scope after, file.scopes = before ++ scope :: after ∧
        (∀ other ∈ before, other.uri ≠ uri) ∧ scope.uri = uri ∧
        file.save uri record = ⟨before ++ scope.save record :: after⟩) ∨
      (∀ other ∈ file.scopes, other.uri ≠ uri) ∧
        file.save uri record = ⟨file.scopes ++ [⟨uri, [record]⟩]⟩ := by
  obtain ⟨scopes⟩ := file
  simp only [save, mk.injEq]
  induction scopes with
  | nil => exact Or.inr ⟨by simp, rfl⟩
  | cons first scopes ih =>
      rw [save.saveIn]
      by_cases huri : first.uri = uri
      · rw [if_pos huri]
        exact Or.inl ⟨[], first, scopes, rfl, by simp, huri, rfl⟩
      · rw [if_neg huri]
        rcases ih with ⟨before, scope, after, hsplit, hbefore, hscope, hsaved⟩ | ⟨hnew, hsaved⟩
        · exact Or.inl ⟨first :: before, scope, after, by rw [hsplit, List.cons_append],
            List.forall_mem_cons.mpr ⟨huri, hbefore⟩, hscope, by rw [hsaved, List.cons_append]⟩
        · exact Or.inr ⟨List.forall_mem_cons.mpr ⟨huri, hnew⟩, by rw [hsaved, List.cons_append]⟩

theorem uris_save
    (file : StoreFile) (uri : String) (record : CredentialRecord) :
    (file.save uri record).scopes.map ScopeRecord.uri
      = withName (file.scopes.map ScopeRecord.uri) uri := by
  rcases file.save_cases uri record with ⟨before, scope, after, hsplit, -, rfl, hsaved⟩ |
    ⟨hnew, hsaved⟩
  · rw [withName, if_pos (by simp [hsplit]), hsaved, hsplit, List.map_append, List.map_append]
    rfl
  · rw [withName, if_neg (by simpa using hnew), hsaved]
    simp

/-- Every scope after saving was there, or is the one saved in. -/
theorem mem_save
    {scope : ScopeRecord}
    (h : scope ∈ (file.save uri record).scopes) :
    scope ∈ file.scopes ∨
      ∃ old, (old ∈ file.scopes ∨ old = ⟨uri, []⟩) ∧ old.uri = uri ∧ scope = old.save record := by
  rcases file.save_cases uri record with ⟨before, first, after, hsplit, -, huri, hsaved⟩ |
    ⟨-, hsaved⟩
  · rw [hsaved] at h
    rcases List.mem_append.mp h with hbefore | h
    · exact Or.inl (by simp [hsplit, hbefore])
    · rcases List.mem_cons.mp h with rfl | hafter
      · exact Or.inr ⟨first, Or.inl (by simp [hsplit]), huri, rfl⟩
      · exact Or.inl (by simp [hsplit, hafter])
  · rw [hsaved] at h
    rcases List.mem_append.mp h with hold | hnew
    · exact Or.inl hold
    · exact Or.inr ⟨⟨uri, []⟩, Or.inr rfl, rfl, List.mem_singleton.mp hnew⟩

/-- Saving a record of the current shape adds no legacy keys. -/
theorem IsCurrent.save
    (h : file.IsCurrent)
    (hrecord : record.keys.isLegacy = false) :
    (file.save uri record).IsCurrent := by
  intro scope hscope other hother
  rcases mem_save hscope with hold | ⟨old, hold, -, rfl⟩
  · exact h scope hold other hother
  · rcases ScopeRecord.mem_save hother with rfl | hmem
    · exact hrecord
    · rcases hold with hold | rfl
      · exact h old hold other hmem
      · cases hmem

/-- Saving in a valid scope keeps a file well-formed. -/
theorem WellFormed.save
    (h : file.WellFormed)
    (hvalid : Scope.isValid uri = true) :
    (file.save uri record).WellFormed where
  uris := uris_save file uri record ▸ nodup_withName h.uris
  valid := by
    intro scope hscope
    rcases mem_save hscope with hold | ⟨old, -, huri, rfl⟩
    · exact h.valid scope hold
    · show Scope.isValid old.uri = true
      rw [huri, hvalid]
  ids := by
    intro scope hscope
    rcases mem_save hscope with hold | ⟨old, hold | rfl, -, rfl⟩
    · exact h.ids scope hold
    · rw [ScopeRecord.ids_save]
      exact nodup_withName (h.ids old hold)
    · rw [ScopeRecord.ids_save]
      exact nodup_withName List.nodup_nil

/-- A file that is well-formed after saving was saved in a valid scope. -/
theorem WellFormed.isValid_of_save
    (h : (file.save uri record).WellFormed) :
    Scope.isValid uri = true := by
  have hmem : uri ∈ (file.save uri record).scopes.map ScopeRecord.uri :=
    uris_save file uri record ▸ mem_withName_self _ uri
  obtain ⟨scope, hscope, rfl⟩ := List.mem_map.mp hmem
  exact h.valid scope hscope

/-- The saved record stands in its scope. -/
theorem exists_saved
    (file : StoreFile) (uri : String) (record : CredentialRecord) :
    ∃ scope ∈ (file.save uri record).scopes, scope.uri = uri ∧ record ∈ scope.credentials := by
  rcases file.save_cases uri record with ⟨before, scope, after, -, -, huri, hsaved⟩ | ⟨-, hsaved⟩
  · exact ⟨scope.save record, by simp [hsaved], huri, scope.mem_save_self record⟩
  · exact ⟨⟨uri, [record]⟩, by simp [hsaved], rfl, List.mem_cons_self⟩

/-- A scope is still there after saving, with the record saved in it if it is the one at the
URI. -/
theorem mem_save_of_mem
    {scope : ScopeRecord}
    (h : scope ∈ file.scopes) :
    scope ∈ (file.save uri record).scopes ∨
      scope.uri = uri ∧ scope.save record ∈ (file.save uri record).scopes := by
  rcases file.save_cases uri record with ⟨before, first, after, hsplit, -, huri, hsaved⟩ |
    ⟨-, hsaved⟩
  · rw [hsplit] at h
    rcases List.mem_append.mp h with hbefore | h
    · exact Or.inl (by simp [hsaved, hbefore])
    · rcases List.mem_cons.mp h with rfl | hafter
      · exact Or.inr ⟨huri, by simp [hsaved]⟩
      · exact Or.inl (by simp [hsaved, hafter])
  · exact Or.inl (by simp [hsaved, h])

/-- The only legacy records of the file are at one place. -/
def LegacyOnlyAt
    (file : StoreFile)
    (uri id : String) : Prop :=
  ∀ scope ∈ file.scopes, ∀ record ∈ scope.credentials, record.keys.isLegacy = true →
    scope.uri = uri ∧ record.id = id

/-- After saving a record of the current shape there are no legacy records exactly if there were
none but the one whose place it takes. -/
theorem isCurrent_save_iff
    (hfile : file.WellFormed)
    (hvalid : Scope.isValid uri = true)
    (hrecord : record.keys.isLegacy = false) :
    (file.save uri record).IsCurrent ↔ file.LegacyOnlyAt uri record.id := by
  constructor
  · intro hcurrent scope hscope other hother hlegacy
    rcases mem_save_of_mem hscope with hkept | ⟨huri, hsaved⟩
    · cases hlegacy.symm.trans (hcurrent scope hkept other hother)
    · rcases ScopeRecord.mem_save_of_mem hother with hkept | hid
      · cases hlegacy.symm.trans (hcurrent _ hsaved other hkept)
      · exact ⟨huri, hid⟩
  · intro honly scope hscope other hother
    rw [← Bool.not_eq_true]
    intro hlegacy
    have hafter : (file.save uri record).WellFormed := hfile.save hvalid
    obtain ⟨holds, hholds, huri, hmem⟩ := exists_saved file uri record
    -- a legacy record at the place is the saved one, for no place is listed twice
    have hplace (hscopeUri : scope.uri = uri) (hid : other.id = record.id) : False := by
      obtain rfl := List.inj_on_of_nodup_map hafter.uris hscope hholds (hscopeUri.trans huri.symm)
      obtain rfl := List.inj_on_of_nodup_map (hafter.ids scope hscope) hother hmem hid
      cases hlegacy.symm.trans hrecord
    rcases mem_save hscope with hold | ⟨old, hold, huri, rfl⟩
    · obtain ⟨hscopeUri, hid⟩ := honly scope hold other hother hlegacy
      exact hplace hscopeUri hid
    · rcases ScopeRecord.mem_save hother with rfl | hmem
      · cases hlegacy.symm.trans hrecord
      · rcases hold with hold | rfl
        · exact hplace huri (honly old hold other hmem hlegacy).2
        · cases hmem

/-- A scope that is not there comes at the end. -/
theorem save_of_not_mem
    (h : uri ∉ file.scopes.map ScopeRecord.uri) :
    file.save uri record = ⟨file.scopes ++ [ScopeRecord.save ⟨uri, []⟩ record]⟩ := by
  rcases file.save_cases uri record with ⟨before, scope, after, hsplit, -, huri, -⟩ | ⟨-, hsaved⟩
  · exact absurd (by simp [hsplit, huri]) h
  · exact hsaved

/-- The saved record is found under its scope and id, and everywhere else is found what was. -/
theorem Opens.save
    (h : file.Opens master provider issuers)
    (hrecord : record.Opens master credential) :
    ∃ saved, (file.save uri record).Opens master provider saved ∧
      ∀ other id, Scope.credential? saved other id
        = if other = uri ∧ id = record.id then some credential
          else Scope.credential? issuers other id := by
  obtain ⟨scopes⟩ := file
  simp only [Opens, StoreFile.save] at h ⊢
  induction h with
  | nil =>
      have hempty : ScopeRecord.Opens master provider ⟨uri, []⟩ (.ofProvider provider uri []) :=
        ⟨rfl, rfl, .nil⟩
      obtain ⟨saved, hsaved, hfind⟩ := hempty.save hrecord
      refine ⟨[saved], .cons hsaved .nil, ?_⟩
      intro other id
      have huri : saved.uri = uri := hsaved.uri_eq
      rw [Scope.credential?_cons, huri, hfind, ite_and]
      rfl
  | @cons scope issuer scopes issuers hscope hscopes ih =>
      have hissuer := hscope.uri_eq
      by_cases huri : scope.uri = uri
      · obtain ⟨saved, hsaved, hfind⟩ := hscope.save hrecord
        have hsavedUri : saved.uri = uri := hsaved.uri_eq.trans huri
        refine ⟨saved :: issuers, ?_, ?_⟩
        · rw [save.saveIn, if_pos huri]
          exact .cons hsaved hscopes
        · intro other id
          rw [Scope.credential?_cons, Scope.credential?_cons, hfind, hsavedUri, hissuer, huri]
          by_cases hother : other = uri
          · simp only [hother, true_and, if_true]
          · rw [if_neg hother, if_neg hother, if_neg fun h => hother h.1]
      · obtain ⟨saved, hsaved, hfind⟩ := ih
        refine ⟨issuer :: saved, ?_, ?_⟩
        · rw [save.saveIn, if_neg huri]
          exact .cons hscope hsaved
        · intro other id
          rw [Scope.credential?_cons, Scope.credential?_cons, hfind, hissuer]
          by_cases hother : other = scope.uri
          · rw [if_pos hother, if_pos hother, if_neg fun h => huri (hother ▸ h.1)]
          · rw [if_neg hother, if_neg hother]

end StoreFile

/-- What is found in a store is found among the issuers that it is made from. -/
theorem Store.credential?_ofIssuers
    (provider : Provider) (issuers : List Issuer) (uri id : String) :
    (ofIssuers provider issuers).credential? uri id = Scope.credential? issuers uri id := by
  unfold ofIssuers
  split
  · rfl
  · next hnone =>
    show Scope.credential? (issuers ++ [.ofProvider provider "" []]) uri id = _
    rw [Scope.credential?, Scope.credential?, Scope.find?, Scope.find?, List.find?_append]
    cases issuers.find? fun issuer => issuer.uri == uri with
    | some issuer => rfl
    | none =>
        -- the root that is added holds nothing
        rw [Option.none_or]
        by_cases huri : uri = ""
        · subst huri
          rfl
        · rw [List.find?_cons_of_neg (by simpa [Issuer.ofProvider] using Ne.symm huri)]
          rfl

end WorkloadIdentity
