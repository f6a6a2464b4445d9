import WorkloadIdentity.Proofs.Store.Refusal

/-!
# What a file must hold to restore, and what it restores to

A file restores exactly if nothing is wrong in it; otherwise the fault is that of the first bad
item.  The store of a file has an issuer for every scope and a credential for every record, in the
file's order, and finds each of them by its URI and id.

* `Store.ofIssuers_represents`: the store of the issuers that a file opens to.
* `Store.restore_exact`: when a file restores, what it gives, and why it does not.
-/

namespace WorkloadIdentity

section Lists

variable {α β : Type} {relation : α → β → Prop} {items : List α} {values : List β}

/-- What comes after the last item has no partner. -/
theorem zip_append_of_forall₂
    (h : List.Forall₂ relation items values)
    (more : List β) :
    items.zip (values ++ more) = items.zip values := by
  induction h with
  | nil => rfl
  | cons _ _ ih => rw [List.cons_append, List.zip_cons_cons, List.zip_cons_cons, ih]

theorem exists_mem_zip
    {item : α}
    (h : List.Forall₂ relation items values)
    (hitem : item ∈ items) :
    ∃ value, (item, value) ∈ items.zip values := by
  induction h with
  | nil => cases hitem
  | @cons first value _ _ _ _ ih =>
      rcases List.mem_cons.mp hitem with rfl | hrest
      · exact ⟨value, List.mem_cons_self⟩
      · obtain ⟨found, hfound⟩ := ih hrest
        exact ⟨found, List.mem_cons_of_mem _ hfound⟩

end Lists

namespace Store

variable {master : MasterKey} {provider : Provider} {file : StoreFile} {issuers : List Issuer}

/-- A store holds what a file lists, in the same order, and nothing else. -/
structure Represents
    (master : MasterKey)
    (provider : Provider)
    (file : StoreFile)
    (store : Store) : Prop where
  /-- Every scope has its issuer; an empty root comes at the end where the file lists none. -/
  issuers : ∃ opened, file.Opens master provider opened ∧
    store.issuers = opened ++
      if "" ∈ file.scopes.map ScopeRecord.uri then [] else [.ofProvider provider "" []]
  uris : (store.issuers.map Issuer.uri).Nodup
  /-- The root is the issuer at the empty URI. -/
  root : ∀ issuer, issuer ∈ store.issuers ∧ issuer.uri = "" ↔ issuer = store.root
  /-- The credential of a record is found under the record's scope and id. -/
  found : ∀ scope issuer, (scope, issuer) ∈ file.scopes.zip store.issuers →
    ∀ record credential, (record, credential) ∈ scope.credentials.zip issuer.credentials →
      store.credential? scope.uri record.id = some credential
  /-- Nothing is found where there is no record. -/
  absent : ∀ uri id, store.credential? uri id = none ↔
    ∀ scope ∈ file.scopes, scope.uri = uri → id ∉ scope.ids

/-- The issuers of a store are those that it is made from and, where none of them is the root, an
empty root. -/
theorem issuers_ofIssuers
    (provider : Provider) (issuers : List Issuer) :
    (ofIssuers provider issuers).issuers = issuers ++
      if "" ∈ issuers.map Issuer.uri then [] else [.ofProvider provider "" []] := by
  unfold ofIssuers
  split
  · next root hroot =>
    have huri : root.uri = "" := by simpa using List.find?_some hroot
    rw [if_pos (List.mem_map.mpr ⟨root, List.mem_of_find?_eq_some hroot, huri⟩), List.append_nil]
  · next hnone =>
    rw [if_neg]
    intro hmem
    obtain ⟨issuer, hissuer, huri⟩ := List.mem_map.mp hmem
    exact List.find?_eq_none.mp hnone issuer hissuer (by simpa using huri)

theorem mem_issuers_ofIssuers
    {issuer : Issuer}
    (h : issuer ∈ issuers) :
    issuer ∈ (ofIssuers provider issuers).issuers := by
  rw [issuers_ofIssuers]
  exact List.mem_append_left _ h

/-- Every scope of a file gives one of the issuers. -/
theorem exists_issuer_of_scope
    {scope : ScopeRecord}
    (hopens : file.Opens master provider issuers)
    (hscope : scope ∈ file.scopes) :
    ∃ issuer ∈ (ofIssuers provider issuers).issuers, scope.Opens master provider issuer := by
  obtain ⟨issuer, hplace⟩ := exists_mem_zip hopens hscope
  exact ⟨issuer, mem_issuers_ofIssuers (List.of_mem_zip hplace).2,
    (List.forall₂_iff_zip.mp hopens).2 hplace⟩

/-- Every issuer is given by a scope of the file or is the root that was added. -/
theorem exists_scope_or_eq_root
    {issuer : Issuer}
    (hopens : file.Opens master provider issuers)
    (hissuer : issuer ∈ (ofIssuers provider issuers).issuers) :
    (∃ scope ∈ file.scopes, scope.Opens master provider issuer) ∨
      issuer = .ofProvider provider "" [] := by
  rw [issuers_ofIssuers] at hissuer
  rcases List.mem_append.mp hissuer with hopened | hroot
  · exact Or.inl (exists_of_mem_right hopens hopened)
  · split at hroot
    · cases hroot
    · exact Or.inr (List.mem_singleton.mp hroot)

/-- A credential is found under its issuer's URI and its own id. -/
theorem WellFormed.credential?_eq
    {store : Store} {issuer : Issuer} {credential : Credential}
    (h : store.WellFormed master provider)
    (hissuer : issuer ∈ store.issuers)
    (hcredential : credential ∈ issuer.credentials) :
    store.credential? issuer.uri credential.id = some credential := by
  have hfind : Scope.find? store.issuers issuer.uri = some issuer := find?_of_nodup h.uris hissuer
  simp only [credential?, hfind, Option.bind_eq_bind, Option.bind_some]
  exact find?_of_nodup (h.issuers issuer hissuer).ids hcredential

/-- What is found under a URI and an id is a credential of an issuer at the URI. -/
theorem credential?_eq_some
    {store : Store} {uri id : String} {credential : Credential}
    (h : store.credential? uri id = some credential) :
    ∃ issuer ∈ store.issuers, issuer.uri = uri ∧
      credential ∈ issuer.credentials ∧ credential.id = id := by
  simp only [credential?, Option.bind_eq_bind, Option.bind_eq_some_iff] at h
  obtain ⟨issuer, hissuer, hcredential⟩ := h
  refine ⟨issuer, List.mem_of_find?_eq_some hissuer, ?_, List.mem_of_find?_eq_some hcredential, ?_⟩
  · simpa using List.find?_some hissuer
  · simpa using List.find?_some hcredential

/-- The root of a store is its issuer at the empty URI. -/
theorem WellFormed.eq_root_iff
    {store : Store}
    (h : store.WellFormed master provider)
    (issuer : Issuer) :
    issuer ∈ store.issuers ∧ issuer.uri = "" ↔ issuer = store.root := by
  constructor
  · rintro ⟨hissuer, huri⟩
    exact List.inj_on_of_nodup_map h.uris hissuer h.root_mem (huri.trans h.root_uri.symm)
  · rintro rfl
    exact ⟨h.root_mem, h.root_uri⟩

/-- The credential at the place of a record is found under the record's scope and id. -/
theorem credential?_of_mem_zip
    {scope : ScopeRecord} {issuer : Issuer} {record : CredentialRecord} {credential : Credential}
    (hfile : file.WellFormed)
    (hopens : file.Opens master provider issuers)
    (hplace : (scope, issuer) ∈ file.scopes.zip issuers)
    (hentry : (record, credential) ∈ scope.credentials.zip issuer.credentials) :
    (ofIssuers provider issuers).credential? scope.uri record.id = some credential := by
  have hscope := (List.forall₂_iff_zip.mp hopens).2 hplace
  have hrecord := (List.forall₂_iff_zip.mp hscope.credentials).2 hentry
  have hissuer : issuer ∈ (ofIssuers provider issuers).issuers :=
    mem_issuers_ofIssuers (List.of_mem_zip hplace).2
  rw [← hscope.uri_eq, ← hrecord.id_eq]
  exact (wellFormed_of_opens hfile hopens).credential?_eq hissuer (List.of_mem_zip hentry).2

/-- No credential is found exactly where the file has no record. -/
theorem credential?_eq_none_iff
    (hfile : file.WellFormed)
    (hopens : file.Opens master provider issuers)
    (uri id : String) :
    (ofIssuers provider issuers).credential? uri id = none ↔
      ∀ scope ∈ file.scopes, scope.uri = uri → id ∉ scope.ids := by
  constructor
  · rintro hnone scope hscope rfl hid
    obtain ⟨record, hrecord, rfl⟩ := List.mem_map.mp hid
    obtain ⟨issuer, hplace⟩ := exists_mem_zip hopens hscope
    have hrelated := (List.forall₂_iff_zip.mp hopens).2 hplace
    obtain ⟨credential, hentry⟩ := exists_mem_zip hrelated.credentials hrecord
    rw [credential?_of_mem_zip hfile hopens hplace hentry] at hnone
    cases hnone
  · intro habsent
    rw [Option.eq_none_iff_forall_ne_some]
    intro credential hsome
    obtain ⟨issuer, hissuer, rfl, hcredential, rfl⟩ := credential?_eq_some hsome
    rcases exists_scope_or_eq_root hopens hissuer with ⟨scope, hscope, hrelated⟩ | rfl
    · apply habsent scope hscope hrelated.uri_eq.symm
      rw [← hrelated.ids_eq]
      exact List.mem_map_of_mem hcredential
    · cases hcredential

/-- The store of the issuers that a file opens to holds what the file lists. -/
theorem ofIssuers_represents
    (hfile : file.WellFormed)
    (hopens : file.Opens master provider issuers) :
    (ofIssuers provider issuers).Represents master provider file := by
  have huris : issuers.map Issuer.uri = file.scopes.map ScopeRecord.uri :=
    map_eq_of_forall₂ (fun _ _ hscope => ScopeRecord.Opens.uri_eq hscope) hopens
  have hlisted := issuers_ofIssuers provider issuers
  have hstore := wellFormed_of_opens hfile hopens
  refine ⟨⟨issuers, hopens, huris ▸ hlisted⟩, hstore.uris, hstore.eq_root_iff, ?_,
    credential?_eq_none_iff hfile hopens⟩
  intro scope issuer hplace record credential hentry
  rw [hlisted, zip_append_of_forall₂ hopens] at hplace
  exact credential?_of_mem_zip hfile hopens hplace hentry

/-- A file restores exactly if nothing is wrong in it.  It gives the store that holds what the file
lists; otherwise the fault is that of its first bad item. -/
theorem restore_exact
    (master : MasterKey)
    (provider : Provider)
    (file : StoreFile)
    (entropy : Entropy) :
    ∃ after outcome rest,
      (restore master provider file).run entropy = (⟨after, outcome⟩, rest) ∧
        ((∃ restored, outcome = .ok restored) ↔ file.Sound master) ∧
        (∀ store count, outcome = .ok (store, count) → store.Represents master provider file) ∧
        ∀ fault, outcome = .error fault → ∃ position, file.Refused master position fault := by
  obtain ⟨⟨after, outcome⟩, rest, hrun⟩ : ∃ restored rest,
      (restore master provider file).run entropy = (restored, rest) := ⟨_, _, rfl⟩
  refine ⟨after, outcome, rest, hrun, ?_⟩
  rcases outcome with fault | ⟨store, count⟩
  · obtain ⟨position, hstopped⟩ := restore_run_error hrun
    refine ⟨⟨?_, ?_⟩, ?_, ?_⟩
    · rintro ⟨restored, hfalse⟩
      cases hfalse
    · intro hsound
      exact absurd hsound hstopped.refused.not_sound
    · intro store count hfalse
      cases hfalse
    · intro found hfound
      cases hfound
      exact ⟨position, hstopped.refused⟩
  · have hsound := sound_of_restore_run_ok hrun
    obtain ⟨issuers, hfile, hopens, rfl, -⟩ := restore_run_ok hrun
    refine ⟨⟨fun _ => hsound, fun _ => ⟨_, rfl⟩⟩, ?_, ?_⟩
    · intro found number hfound
      cases hfound
      exact ofIssuers_represents hfile hopens
    · intro fault hfalse
      cases hfalse

end Store
end WorkloadIdentity
