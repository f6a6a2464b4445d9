import WorkloadIdentity.Administration
import WorkloadIdentity.Proofs.Store.Acceptance
import WorkloadIdentity.Proofs.Token.Publication

/-!
# Every key is published in one place

The key of a credential that signs in its issuer's own name is in the set of its issuer, and in no
other.  The key of a credential with an issuer of its own is left out there; it makes up the set
that is hosted in the name of that issuer, and there is no other name in which it is given out.

* `JwkSet.entries_ofIssuer`: what an issuer's set holds under the id of one of its credentials.
* `Store.WellFormed.credentialJwks?_eq`: the sets of one key that a store gives out.
* `Store.published_in_one_place`: both for all credentials of a store that was restored.
-/

namespace WorkloadIdentity

/-- A name that no two items share picks one of them. -/
theorem filter_name_of_nodup
    {α : Type} {items : List α} {nameOf : α → String} {item : α}
    (hnames : (items.map nameOf).Nodup)
    (hitem : item ∈ items) :
    items.filter (fun other => nameOf other == nameOf item) = [item] := by
  induction items with
  | nil => cases hitem
  | cons first rest ih =>
      rw [List.map_cons, List.nodup_cons] at hnames
      obtain ⟨hfirst, hrest⟩ := hnames
      rcases List.mem_cons.mp hitem with rfl | hmem
      · have hnone : rest.filter (fun other => nameOf other == nameOf item) = [] := by
          rw [List.filter_eq_nil_iff]
          intro other hother hname
          exact hfirst (List.mem_map.mpr ⟨other, hother, by simpa using hname⟩)
        rw [List.filter_cons_of_pos (by simp), hnone]
      · have hne : nameOf first ≠ nameOf item := by
          intro hname
          exact hfirst (List.mem_map.mpr ⟨item, hmem, hname.symm⟩)
        rw [List.filter_cons_of_neg (by simpa using hne), ih hrest hmem]

/-- Under the id of one of its credentials an issuer's set holds the key of that credential alone,
and nothing if the credential has an issuer of its own. -/
theorem JwkSet.entries_ofIssuer
    {issuer : Issuer} {credential : Credential}
    (hids : (issuer.credentials.map Credential.id).Nodup)
    (hcredential : credential ∈ issuer.credentials) :
    (ofIssuer issuer).keys.filter (fun key => key.kid == credential.id)
      = if credential.issuer = none then [credential.jwk] else [] := by
  have hkid : (fun key : Jwk => key.kid == credential.id) ∘ Credential.jwk
      = fun other => other.id == credential.id := by
    funext other
    simp
  rw [keys_ofIssuer, List.filter_map, hkid, Issuer.defaultCredentials, List.filter_comm,
    filter_name_of_nodup hids hcredential]
  cases hissuer : credential.issuer <;> simp [hissuer]

/-- Under the id of one of its credentials an issuer has that credential in the name of the
credential's own issuer, and none in any other name. -/
theorem Issuer.find?_id
    {issuer : Issuer} {credential : Credential}
    (hids : (issuer.credentials.map Credential.id).Nodup)
    (hcredential : credential ∈ issuer.credentials)
    (name : String) :
    issuer.find? credential.id name
      = if credential.issuer = some name then some credential else none := by
  have hsame : ∀ other ∈ issuer.credentials,
      (other.id == credential.id && other.issuer == some name) = true →
        other = credential ∧ credential.issuer = some name := by
    intro other hother hmatch
    simp only [Bool.and_eq_true, beq_iff_eq] at hmatch
    obtain rfl := List.inj_on_of_nodup_map hids hother hcredential hmatch.1
    exact ⟨rfl, hmatch.2⟩
  unfold find?
  split
  · next hname =>
    exact find?_of_unique hcredential (by simp [hname]) fun other hother hmatch =>
      (hsame other hother hmatch).1
  · next hname =>
    rw [List.find?_eq_none]
    exact fun other hother hmatch => hname (hsame other hother hmatch).2

namespace Store

variable {master : MasterKey} {provider : Provider} {store : Store} {issuer : Issuer}
  {credential : Credential}

/-- For one of its credentials a store gives out a set in the name of the credential's own issuer,
and in no other name. -/
theorem WellFormed.credentialJwks?_eq
    (h : store.WellFormed master provider)
    (hissuer : issuer ∈ store.issuers)
    (hcredential : credential ∈ issuer.credentials)
    (name : String) :
    store.resolver.credentialJwks? issuer.uri credential.id name
      = if credential.issuer = some name then some ⟨[credential.jwk]⟩ else none := by
  have hfind : Scope.find? store.issuers issuer.uri = some issuer := find?_of_nodup h.uris hissuer
  have hids := (h.issuers issuer hissuer).ids
  have hpicked := Issuer.find?_id hids hcredential name
  simp only [Resolver.credentialJwks?, resolver_forConfig, hfind, hpicked, Option.bind_eq_bind,
    Option.bind_some]
  split <;> rfl

/-- Where a store has no credential, it gives out no set. -/
theorem credentialJwks?_eq_none
    {uri id : String}
    (h : ∀ issuer ∈ store.issuers, issuer.uri = uri → ∀ credential ∈ issuer.credentials,
      credential.id ≠ id)
    (name : String) :
    store.resolver.credentialJwks? uri id name = none := by
  rw [Resolver.credentialJwks?, resolver_forConfig]
  cases hfind : Scope.find? store.issuers uri with
  | none => rfl
  | some issuer =>
      have huri : issuer.uri = uri := by simpa using List.find?_some hfind
      have hnone : issuer.find? id name = none := by
        rw [Issuer.find?, List.find?_eq_none]
        intro credential hcredential hmatch
        simp only [Bool.and_eq_true, beq_iff_eq] at hmatch
        exact h issuer (List.mem_of_find?_eq_some hfind) huri credential hcredential hmatch.1
      simp only [hnone, Option.bind_eq_bind, Option.bind_some, Option.bind_none]

/-- The key of a credential is in the set of its issuer, as the only one with its id, and is given
out in no other name. -/
structure PublishedHere
    (store : Store)
    (issuer : Issuer)
    (credential : Credential) : Prop where
  found : (JwkSet.ofIssuer issuer).find? credential.id = some credential.jwk
  entries : (JwkSet.ofIssuer issuer).keys.filter (fun key => key.kid == credential.id)
    = [credential.jwk]
  nowhere : ∀ name, store.resolver.credentialJwks? issuer.uri credential.id name = none

/-- There is no key with the id of a credential in the set of its issuer, and the credential's key
is given out in the name of an issuer of its own and in no other. -/
structure PublishedElsewhere
    (store : Store)
    (issuer : Issuer)
    (credential : Credential) : Prop where
  entries : (JwkSet.ofIssuer issuer).keys.filter (fun key => key.kid == credential.id) = []
  given : ∃ name, credential.issuer = some name ∧ name ≠ "" ∧
    ∀ other, store.resolver.credentialJwks? issuer.uri credential.id other
      = if other = name then some ⟨[credential.jwk]⟩ else none

theorem WellFormed.publishedHere_iff
    (h : store.WellFormed master provider)
    (hissuer : issuer ∈ store.issuers)
    (hcredential : credential ∈ issuer.credentials) :
    store.PublishedHere issuer credential ↔ credential.issuer = none := by
  have hids := (h.issuers issuer hissuer).ids
  have hentries := JwkSet.entries_ofIssuer hids hcredential
  constructor
  · intro hhere
    by_contra hname
    rw [if_neg hname] at hentries
    cases hhere.entries.symm.trans hentries
  · intro hnone
    refine ⟨(JwkSet.find?_ofIssuer hids hcredential).trans (if_pos hnone),
      hentries.trans (if_pos hnone), ?_⟩
    intro name
    rw [h.credentialJwks?_eq hissuer hcredential, hnone, if_neg (by simp)]

theorem WellFormed.publishedElsewhere_iff
    (h : store.WellFormed master provider)
    (hissuer : issuer ∈ store.issuers)
    (hcredential : credential ∈ issuer.credentials) :
    store.PublishedElsewhere issuer credential ↔ credential.issuer ≠ none := by
  constructor
  · rintro ⟨-, name, hname, -⟩ hnone
    cases hname.symm.trans hnone
  · intro hsome
    obtain ⟨name, hname⟩ := Option.ne_none_iff_exists'.mp hsome
    have hentries := JwkSet.entries_ofIssuer (h.issuers issuer hissuer).ids hcredential
    refine ⟨hentries.trans (if_neg hsome), name, hname, ?_, ?_⟩
    · rintro rfl
      exact ((h.issuers issuer hissuer).wellKept credential hcredential).issuer_ne hname
    · intro other
      rw [h.credentialJwks?_eq hissuer hcredential, hname]
      simp only [Option.some.injEq, eq_comm]

/-- Every record of a file that restores gives a credential whose key is published in exactly one
place: in the set of its scope, or in the name of an issuer of its own.  Where the store has no
credential, no set is given out in any name. -/
theorem published_in_one_place
    {file after : StoreFile} {count : Nat} {entropy rest : Entropy}
    (h : (restore master provider file).run entropy = (⟨after, .ok (store, count)⟩, rest)) :
    (∀ scope ∈ file.scopes, ∀ record ∈ scope.credentials, ∃ issuer ∈ store.issuers,
      issuer.uri = scope.uri ∧ ∃ credential ∈ issuer.credentials,
        record.Opens master credential) ∧
    (∀ issuer ∈ store.issuers, ∀ credential ∈ issuer.credentials,
      Xor (store.PublishedHere issuer credential)
        (store.PublishedElsewhere issuer credential)) ∧
    ∀ uri id,
      (∀ issuer ∈ store.issuers, issuer.uri = uri → ∀ credential ∈ issuer.credentials,
        credential.id ≠ id) →
      ∀ name, store.resolver.credentialJwks? uri id name = none := by
  have hstore := restore_wellFormed h
  obtain ⟨issuers, hfile, hopens, rfl, -⟩ := restore_run_ok h
  refine ⟨?_, ?_, fun uri id => credentialJwks?_eq_none⟩
  · intro scope hscope record hrecord
    obtain ⟨issuer, hissuer, hrelated⟩ := exists_issuer_of_scope hopens hscope
    obtain ⟨credential, hentry⟩ := exists_mem_zip hrelated.credentials hrecord
    exact ⟨issuer, hissuer, hrelated.uri_eq, credential, (List.of_mem_zip hentry).2,
      (List.forall₂_iff_zip.mp hrelated.credentials).2 hentry⟩
  · intro issuer hissuer credential hcredential
    rw [hstore.publishedHere_iff hissuer hcredential,
      hstore.publishedElsewhere_iff hissuer hcredential]
    exact xor_not_right.mpr Iff.rfl

/-- A scope with a credential that signs in the scope's name and one with an issuer of its own. -/
theorem sample_published_in_one_place :
    ∃ file store here elsewhere,
      (∀ entropy, (restore .uniform sampleProvider file).run entropy
        = (⟨file, .ok (store, 0)⟩, entropy)) ∧
      Xor (store.PublishedHere (.ofProvider sampleProvider "" [here, elsewhere]) here)
        (store.PublishedElsewhere (.ofProvider sampleProvider "" [here, elsewhere]) here) ∧
      Xor (store.PublishedHere (.ofProvider sampleProvider "" [here, elsewhere]) elsewhere)
        (store.PublishedElsewhere (.ofProvider sampleProvider "" [here, elsewhere]) elsewhere) ∧
      here.issuer = none ∧ elsewhere.issuer = some "https://sts.example.org" := by
  obtain ⟨leastBytes, hleast⟩ := KeyPair.privateBytes_least
  obtain ⟨smallBytes, hsmall⟩ := KeyPair.privateBytes_small
  obtain ⟨leastKeys, hhere⟩ := exists_plainCredential hleast .uniform
  obtain ⟨smallKeys, helsewhere⟩ := @Credential.exists_wellKept _ _ none
    (some "https://sts.example.org") none hsmall (by simp) (by simp) (by simp) .uniform "upload"
  have hissuer : Issuer.WellFormed .uniform sampleProvider (.ofProvider sampleProvider ""
      [plainCredential .least leastKeys, ⟨"upload", none, some "https://sts.example.org", none,
        .small, smallKeys⟩]) := by
    refine ⟨show Scope.isValid "" = true by decide, rfl, ?_, List.forall_mem_cons.mpr
      ⟨hhere, List.forall_mem_singleton.mpr helsewhere⟩⟩
    show ["deploy", "upload"].Nodup
    decide
  have huris : (List.map Issuer.uri [.ofProvider sampleProvider ""
      [plainCredential .least leastKeys, ⟨"upload", none, some "https://sts.example.org", none,
        .small, smallKeys⟩]]).Nodup :=
    List.nodup_singleton ""
  have hrun := restore_run_ofIssuers huris (List.forall_mem_singleton.mpr hissuer)
  have hplaces := (published_in_one_place (hrun ⟨fun _ => 0, 0⟩)).2.1
  exact ⟨_, _, _, _, hrun, hplaces _ List.mem_cons_self _ List.mem_cons_self,
    hplaces _ List.mem_cons_self _ (List.mem_cons_of_mem _ List.mem_cons_self), rfl, rfl⟩

end Store
end WorkloadIdentity
