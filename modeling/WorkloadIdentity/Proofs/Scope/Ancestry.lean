import WorkloadIdentity.Proofs.Token.Claims

/-!
# The scopes around a build

A build is offered the scopes around its own, the innermost first.  Two scopes around a third are
nested, so no two of those that are offered have URIs of the same size: the list is a chain that
narrows down to the root, and the order in which a file lists its scopes has no part in it.

* `Scope.eq_of_size_eq`: two scopes around a third with URIs of the same size are one.
* `Scope.visible_eq_of_mem_iff`: a chain is determined by what is in it.
* `Store.forContext_exact`: what a restored store offers.
-/

namespace WorkloadIdentity

namespace Scope

variable {issuers others : List Issuer} {scope : String}

/-- Two scopes around a third with URIs of the same size are one. -/
theorem eq_of_size_eq
    {a b : String}
    (ha : encloses a scope = true)
    (hb : encloses b scope = true)
    (hsize : a.utf8ByteSize = b.utf8ByteSize) :
    a = b := by
  rcases encloses_iff.mp (encloses_of_size_le ha hb hsize.le) with rfl | hbelow
  · have hempty : b.utf8ByteSize = 0 := hsize.symm
    exact (String.utf8ByteSize_eq_zero_iff.mp hempty).symm
  · exact (hbelow.eq_of_size_le hsize.ge).symm

theorem nodup_visible
    (huris : (issuers.map Issuer.uri).Nodup) :
    ((visible issuers scope).map Issuer.uri).Nodup := by
  have hperm := (List.mergeSort_perm (issuers.filter fun issuer => encloses issuer.uri scope)
    fun a b => b.uri.utf8ByteSize ≤ a.uri.utf8ByteSize).map Issuer.uri
  exact hperm.nodup_iff.mpr (huris.sublist (List.filter_sublist.map Issuer.uri))

/-- Every scope that is offered has a shorter URI than those before it. -/
theorem pairwise_lt_visible
    (huris : (issuers.map Issuer.uri).Nodup) :
    (visible issuers scope).Pairwise fun inner outer =>
      outer.uri.utf8ByteSize < inner.uri.utf8ByteSize := by
  have hdistinct : (visible issuers scope).Pairwise fun inner outer => inner.uri ≠ outer.uri :=
    List.pairwise_map.mp (nodup_visible huris)
  refine (hdistinct.and (pairwise_visible issuers scope)).imp_of_mem ?_
  rintro inner outer hinner houter ⟨hne, hle⟩
  refine lt_of_le_of_ne hle ?_
  intro hsize
  exact hne (eq_of_size_eq (mem_visible_iff.mp hinner).2 (mem_visible_iff.mp houter).2 hsize.symm)

/-- Every scope that is offered is around those before it. -/
theorem pairwise_encloses_visible
    (issuers : List Issuer) (scope : String) :
    (visible issuers scope).Pairwise fun inner outer => encloses outer.uri inner.uri = true :=
  (pairwise_visible issuers scope).imp_of_mem fun hinner houter hsize =>
    encloses_of_size_le (mem_visible_iff.mp houter).2 (mem_visible_iff.mp hinner).2 hsize

/-- No scope comes after the root. -/
theorem getLast?_visible
    {root : Issuer}
    (huris : (issuers.map Issuer.uri).Nodup)
    (hroot : root ∈ issuers)
    (huri : root.uri = "") :
    (visible issuers scope).getLast? = some root := by
  have hvisible : root ∈ visible issuers scope :=
    mem_visible_iff.mpr ⟨hroot, encloses_iff.mpr (Or.inl huri)⟩
  obtain ⟨before, after, hsplit⟩ := List.append_of_mem hvisible
  have hshorter := @pairwise_lt_visible issuers scope huris
  rw [hsplit] at hshorter
  have hafter := (List.pairwise_cons.mp (List.pairwise_append.mp hshorter).2.1).1
  have hnone : after = [] := by
    rw [List.eq_nil_iff_forall_not_mem]
    intro issuer hissuer
    have hlt := hafter issuer hissuer
    rw [huri] at hlt
    exact absurd hlt (Nat.not_lt_zero _)
  rw [hsplit, hnone, List.getLast?_concat]

/-- A view of issuers that keeps their URIs passes through the choice of a chain. -/
theorem map_visible
    (view : Issuer → Issuer)
    (hview : ∀ issuer, (view issuer).uri = issuer.uri) :
    (visible issuers scope).map view = visible (issuers.map view) scope := by
  have hfilter : (issuers.filter fun issuer => encloses issuer.uri scope).map view
      = (issuers.map view).filter fun issuer => encloses issuer.uri scope := by
    rw [List.filter_map]
    simp only [Function.comp_def, hview]
  rw [visible, visible, ← hfilter]
  refine List.map_mergeSort ?_
  intro inner _ outer _
  rw [hview, hview]

/-- A chain is determined by what is in it, in whatever order the issuers are listed. -/
theorem visible_eq_of_mem_iff
    (huris : (issuers.map Issuer.uri).Nodup)
    (hothers : (others.map Issuer.uri).Nodup)
    (hmem : ∀ issuer, issuer ∈ issuers ↔ issuer ∈ others) :
    visible issuers scope = visible others scope := by
  have hperm : (visible issuers scope).Perm (visible others scope) := by
    rw [List.perm_ext_iff_of_nodup (nodup_visible huris).of_map (nodup_visible hothers).of_map]
    intro issuer
    rw [mem_visible_iff, mem_visible_iff, hmem]
  refine List.Perm.eq_of_pairwise ?_ (pairwise_lt_visible huris) (pairwise_lt_visible hothers) hperm
  intro inner outer _ _ hlt hgt
  exact absurd hlt (Nat.lt_asymm hgt)

end Scope

/-- The credential without the encrypted form of its keys, which is a fresh one whenever a legacy
record is restored. -/
def Credential.unsealed (credential : Credential) : Credential :=
  { credential with record := ⟨"", "", ""⟩ }

/-- The issuer with its credentials as they are without the encrypted forms of their keys. -/
def Issuer.unsealed (issuer : Issuer) : Issuer :=
  { issuer with credentials := issuer.credentials.map Credential.unsealed }

/-- Two lists that items give look the same in a view that is determined by the item. -/
theorem map_eq_map_of_forall₂
    {α β γ : Type} {relation : α → β → Prop} {view : β → γ} {items : List α}
    {values others : List β}
    (hview : ∀ item ∈ items, ∀ value other, relation item value → relation item other →
      view value = view other)
    (h : List.Forall₂ relation items values)
    (hother : List.Forall₂ relation items others) :
    values.map view = others.map view := by
  induction h generalizing others with
  | nil =>
      cases hother
      rfl
  | cons hitem _ ih =>
      obtain ⟨hfirst, hrest⟩ := List.forall_mem_cons.mp hview
      cases hother with
      | cons hsame hothers =>
          rw [List.map_cons, List.map_cons, hfirst _ _ hitem hsame, ih hrest hothers]

section

variable {master : MasterKey} {provider : Provider}

/-- The credentials that a record gives differ in nothing but the encrypted form. -/
theorem CredentialRecord.Opens.unsealed_eq
    {record : CredentialRecord} {credential another : Credential}
    (h : record.Opens master credential)
    (hother : record.Opens master another) :
    credential.unsealed = another.unsealed := by
  have hpair : credential.pair = another.pair := by
    cases hkeys : record.keys with
    | current keys =>
        have hopened := h.keys.opened (by rw [hkeys]; rfl)
        exact (hother.keys.opened_eq hopened)
    | legacy privateKey =>
        exact Except.ok.inj
          ((h.keys.migrates privateKey hkeys).symm.trans (hother.keys.migrates privateKey hkeys))
  obtain ⟨_, _, _, _, _, _⟩ := credential
  obtain ⟨_, _, _, _, _, _⟩ := another
  obtain ⟨rfl, rfl, rfl, rfl, -⟩ := h
  obtain ⟨hid, hdescription, hissuer, haudience, -⟩ := hother
  simp only at hid hdescription hissuer haudience hpair
  simp only [Credential.unsealed, hid, hdescription, hissuer, haudience, hpair]

/-- A record of the current shape gives one credential. -/
theorem CredentialRecord.Opens.unique
    {record : CredentialRecord} {credential another : Credential}
    (h : record.Opens master credential)
    (hother : record.Opens master another)
    (hcurrent : record.keys.isLegacy = false) :
    credential = another := by
  have hrun := (h.restore_run hcurrent ⟨fun _ => 0, 0⟩).symm.trans
    (hother.restore_run hcurrent ⟨fun _ => 0, 0⟩)
  cases hrun
  rfl

/-- The issuers that a scope gives differ in nothing but encrypted forms. -/
theorem ScopeRecord.Opens.unsealed_eq
    {scope : ScopeRecord} {issuer another : Issuer}
    (h : scope.Opens master provider issuer)
    (hother : scope.Opens master provider another) :
    issuer.unsealed = another.unsealed := by
  have hcredentials : issuer.credentials.map Credential.unsealed
      = another.credentials.map Credential.unsealed :=
    map_eq_map_of_forall₂ (fun record _ _ _ (hopens : record.Opens master _) hsame =>
      hopens.unsealed_eq hsame) h.credentials hother.credentials
  simp only [Issuer.unsealed, hcredentials, h.uri_eq, hother.uri_eq, h.url_eq, hother.url_eq]

/-- A scope whose records have the current shape gives one issuer. -/
theorem ScopeRecord.Opens.unique
    {scope : ScopeRecord} {issuer another : Issuer}
    (h : scope.Opens master provider issuer)
    (hother : scope.Opens master provider another)
    (hcurrent : ∀ record ∈ scope.credentials, record.keys.isLegacy = false) :
    issuer = another := by
  have hcredentials : issuer.credentials.map id = another.credentials.map id :=
    map_eq_map_of_forall₂ (fun record hrecord _ _ hopens hsame =>
      hopens.unique hsame (hcurrent record hrecord)) h.credentials hother.credentials
  rw [List.map_id, List.map_id] at hcredentials
  obtain ⟨uri, url, credentials⟩ := issuer
  obtain rfl : uri = another.uri := h.uri_eq.trans hother.uri_eq.symm
  obtain rfl : url = another.url := h.url_eq.trans hother.url_eq.symm
  obtain rfl : credentials = another.credentials := hcredentials
  rfl

end

theorem StoreFile.WellFormed.of_perm
    {file other : StoreFile}
    (hfile : file.WellFormed)
    (hperm : other.scopes.Perm file.scopes) :
    other.WellFormed where
  uris := (hperm.map ScopeRecord.uri).nodup_iff.mpr hfile.uris
  valid := fun scope hscope => hfile.valid scope (hperm.mem_iff.mp hscope)
  ids := fun scope hscope => hfile.ids scope (hperm.mem_iff.mp hscope)

namespace Store

variable {master : MasterKey} {provider : Provider} {file other : StoreFile}
  {issuers others : List Issuer} {view : Issuer → Issuer}

/-- A file with the same scopes in another order gives issuers that look the same. -/
theorem exists_alike_of_perm
    {issuer : Issuer}
    (hfile : file.WellFormed)
    (hperm : other.scopes.Perm file.scopes)
    (hopens : file.Opens master provider issuers)
    (hothers : other.Opens master provider others)
    (hview : ∀ scope ∈ file.scopes, ∀ issuer another, scope.Opens master provider issuer →
      scope.Opens master provider another → view issuer = view another)
    (hissuer : issuer ∈ (ofIssuers provider issuers).issuers) :
    ∃ another ∈ (ofIssuers provider others).issuers, view another = view issuer := by
  have hstore := wellFormed_of_opens hfile hopens
  rcases exists_scope_or_eq_root hopens hissuer with ⟨scope, hscope, hgives⟩ | hroot
  · obtain ⟨another, hanother, hsame⟩ := exists_issuer_of_scope hothers (hperm.mem_iff.mpr hscope)
    exact ⟨another, hanother, hview scope hscope another issuer hsame hgives⟩
  · have hotherStore := wellFormed_of_opens (hfile.of_perm hperm) hothers
    refine ⟨_, hotherStore.root_mem, ?_⟩
    rcases exists_scope_or_eq_root hothers hotherStore.root_mem with ⟨scope, hscope, hgives⟩ | hsame
    · -- a scope at the root's place would have given the root in both orders
      obtain ⟨found, hfound, hsame⟩ := exists_issuer_of_scope hopens (hperm.mem_iff.mp hscope)
      have huri : found.uri = issuer.uri := by
        rw [hsame.uri_eq, ← hgives.uri_eq, hotherStore.root_uri, hroot]
        rfl
      obtain rfl := List.inj_on_of_nodup_map hstore.uris hfound hissuer huri
      exact hview scope (hperm.mem_iff.mp hscope) _ _ hgives hsame
    · rw [hsame, hroot]

/-- In whatever order a file lists its scopes, a build is offered issuers that look the same. -/
theorem map_visible_eq_of_perm
    (hfile : file.WellFormed)
    (hperm : other.scopes.Perm file.scopes)
    (hopens : file.Opens master provider issuers)
    (hothers : other.Opens master provider others)
    (view : Issuer → Issuer)
    (huri : ∀ issuer, (view issuer).uri = issuer.uri)
    (hview : ∀ scope ∈ file.scopes, ∀ issuer another, scope.Opens master provider issuer →
      scope.Opens master provider another → view issuer = view another)
    (scope : String) :
    (Scope.visible (ofIssuers provider others).issuers scope).map view
      = (Scope.visible (ofIssuers provider issuers).issuers scope).map view := by
  have hother := hfile.of_perm hperm
  have huris {listed : List Issuer} (hlisted : (listed.map Issuer.uri).Nodup) :
      ((listed.map view).map Issuer.uri).Nodup := by
    rw [List.map_map]
    simpa only [Function.comp_def, huri] using hlisted
  rw [Scope.map_visible view huri, Scope.map_visible view huri]
  refine Scope.visible_eq_of_mem_iff (huris (wellFormed_of_opens hother hothers).uris)
    (huris (wellFormed_of_opens hfile hopens).uris) fun found => ?_
  simp only [List.mem_map]
  constructor
  · rintro ⟨issuer, hissuer, rfl⟩
    exact exists_alike_of_perm hother hperm.symm hothers hopens
      (fun scope hscope => hview scope (hperm.mem_iff.mp hscope)) hissuer
  · rintro ⟨issuer, hissuer, rfl⟩
    exact exists_alike_of_perm hfile hperm hopens hothers hview hissuer

/-- The scopes around a scope, with the issuers that the store has for them. -/
structure Offers
    (store : Store)
    (file : StoreFile)
    (scope : String)
    (offered : List Issuer) : Prop where
  /-- The issuers of the store whose scopes are the root, the scope itself or above it. -/
  mem : ∀ issuer, issuer ∈ offered ↔
    issuer ∈ store.issuers ∧ (issuer.uri = "" ∨ Scope.Below issuer.uri scope)
  /-- They are at the URIs that the file lists, and at the root's whether or not it is listed. -/
  uris : ∀ uri, uri ∈ offered.map Issuer.uri ↔
    uri = "" ∨ uri ∈ file.scopes.map ScopeRecord.uri ∧ Scope.Below uri scope
  once : (offered.map Issuer.uri).Nodup
  shorter : offered.Pairwise fun inner outer => outer.uri.utf8ByteSize < inner.uri.utf8ByteSize
  around : offered.Pairwise fun inner outer => outer.uri = "" ∨ Scope.Below outer.uri inner.uri
  root : offered.getLast? = some store.root
  root_uri : store.root.uri = ""

/-- The URIs of a store are those of its file's scopes and the root's. -/
theorem mem_uris_iff
    {uri : String}
    (hopens : file.Opens master provider issuers) :
    uri ∈ (ofIssuers provider issuers).issuers.map Issuer.uri ↔
      uri = "" ∨ uri ∈ file.scopes.map ScopeRecord.uri := by
  have huris : issuers.map Issuer.uri = file.scopes.map ScopeRecord.uri :=
    map_eq_of_forall₂ (fun _ _ hscope => hscope.uri_eq) hopens
  rw [issuers_ofIssuers, List.map_append, huris]
  split
  · next hroot =>
    rw [List.map_nil, List.append_nil, iff_or_self]
    rintro rfl
    exact hroot
  · simp [Issuer.ofProvider, or_comm]

/-- A store that a file opens to offers the chain of scopes around a scope. -/
theorem visible_offers
    (hfile : file.WellFormed)
    (hopens : file.Opens master provider issuers)
    (scope : String) :
    (ofIssuers provider issuers).Offers file scope
      (Scope.visible (ofIssuers provider issuers).issuers scope) := by
  have hstore := wellFormed_of_opens hfile hopens
  have hmem (issuer : Issuer) :
      issuer ∈ Scope.visible (ofIssuers provider issuers).issuers scope ↔
        issuer ∈ (ofIssuers provider issuers).issuers ∧
          (issuer.uri = "" ∨ Scope.Below issuer.uri scope) := by
    rw [Scope.mem_visible_iff, Scope.encloses_iff]
  refine ⟨hmem, ?_, Scope.nodup_visible hstore.uris, Scope.pairwise_lt_visible hstore.uris, ?_,
    Scope.getLast?_visible hstore.uris hstore.root_mem hstore.root_uri, hstore.root_uri⟩
  · intro uri
    have hlisted := @mem_uris_iff master provider file issuers uri hopens
    constructor
    · intro huri
      obtain ⟨issuer, hissuer, rfl⟩ := List.mem_map.mp huri
      obtain ⟨hissuer, hroot | hbelow⟩ := (hmem issuer).mp hissuer
      · exact Or.inl hroot
      · rcases hlisted.mp (List.mem_map_of_mem hissuer) with hroot | hscope
        · exact Or.inl hroot
        · exact Or.inr ⟨hscope, hbelow⟩
    · rintro huri
      have hissuer : uri ∈ (ofIssuers provider issuers).issuers.map Issuer.uri :=
        hlisted.mpr (huri.imp_right And.left)
      obtain ⟨issuer, hlists, rfl⟩ := List.mem_map.mp hissuer
      exact List.mem_map_of_mem ((hmem issuer).mpr ⟨hlists, huri.imp_right And.right⟩)
  · exact (Scope.pairwise_encloses_visible _ scope).imp Scope.encloses_iff.mp

/-- The factory of a restored store offers a build the chain of the scopes around its own, whatever
text the build has for it: the issuers of the store at the root, at the scope itself and above it,
each once, by URIs that get strictly shorter, with the root at the end, and each around all before
it.  A file with the same scopes in another order restores too and offers the same chain, up to the
encrypted forms that replace legacy records. -/
theorem forContext_exact
    {after : StoreFile} {store : Store} {count : Nat} {entropy rest : Entropy}
    (h : (restore master provider file).run entropy = (⟨after, .ok (store, count)⟩, rest))
    (build : Build) :
    store.Offers file build.scope (store.factory.forContext build) ∧
      ∀ other : StoreFile, other.scopes.Perm file.scopes → ∀ supply,
        ∃ kept again number left,
          (restore master provider other).run supply = (⟨kept, .ok (again, number)⟩, left) ∧
          (again.factory.forContext build).map Issuer.unsealed
            = (store.factory.forContext build).map Issuer.unsealed ∧
          (file.IsCurrent → again.factory.forContext build = store.factory.forContext build) := by
  have hsound := sound_of_restore_run_ok h
  obtain ⟨issuers, hfile, hopens, rfl, -⟩ := restore_run_ok h
  refine ⟨visible_offers hfile hopens build.scope, ?_⟩
  intro other hperm supply
  obtain ⟨kept, again, number, left, hrun⟩ :=
    restore_run_of_sound master provider (hsound.of_perm hperm) supply
  obtain ⟨others, -, hothers, rfl, -⟩ := restore_run_ok hrun
  refine ⟨kept, _, number, left, hrun, ?_, ?_⟩
  · exact map_visible_eq_of_perm hfile hperm hopens hothers Issuer.unsealed (fun _ => rfl)
      (fun _ _ _ _ => ScopeRecord.Opens.unsealed_eq) build.scope
  · intro hcurrent
    have hsame := map_visible_eq_of_perm hfile hperm hopens hothers id (fun _ => rfl)
      (fun scope hscope _ _ hone hanother => hone.unique hanother (hcurrent scope hscope))
      build.scope
    rwa [List.map_id, List.map_id] at hsame

/-- A build below the inner of two nested scopes is offered both of them, the inner one first. -/
theorem nested_forContext_exact :
    ∃ outer inner store,
      (∀ entropy, (restore .uniform sampleProvider (nestedFile outer inner)).run entropy
        = (⟨nestedFile outer inner, .ok (store, 0)⟩, entropy)) ∧
      store.Offers (nestedFile outer inner) "/job/team"
        (store.factory.forContext ⟨"https://ci.example.org/job/app/", 7, "/job/team"⟩) := by
  obtain ⟨outerBytes, houter⟩ := KeyPair.privateBytes_least
  obtain ⟨innerBytes, hinner⟩ := KeyPair.privateBytes_small
  obtain ⟨outer, inner, hrun⟩ := nested_restore_run houter hinner .uniform sampleProvider
  exact ⟨outer, inner, _, hrun, (forContext_exact (hrun ⟨fun _ => 0, 0⟩)
    ⟨"https://ci.example.org/job/app/", 7, "/job/team"⟩).1⟩

end Store

end WorkloadIdentity
