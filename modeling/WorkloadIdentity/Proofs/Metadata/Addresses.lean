import WorkloadIdentity.Proofs.Store.Restoring
import WorkloadIdentity.Resolver

/-!
# The addresses of documents

A document's address is the URI of its issuer followed by the document's suffix.  No address is
that of two documents, and a store serves at an address what its issuer there has to publish.

* `address_inj`: no address is that of two documents.
* `Resolver.forPath_eq_some_iff`: the issuer that answers at a path.
* `Resolver.resolve_eq_discovery_iff`, `Resolver.resolve_eq_jwks_iff`: the documents of an issuer.
* `Store.WellFormed.resolve_eq_discovery_iff`, `Store.WellFormed.resolve_eq_jwks_iff`: the
  documents of a store.
-/

namespace WorkloadIdentity

theorem dropSuffix?_append
    (ending text : String) :
    dropSuffix? ending (text ++ ending) = some text := by
  simp [dropSuffix?]

theorem eq_append_of_dropSuffix?
    {ending text rest : String}
    (h : dropSuffix? ending text = some rest) :
    text = rest ++ ending := by
  simp only [dropSuffix?] at h
  split at h
  · next hdrop =>
    cases h
    have hsplit := List.take_append_drop (text.toList.length - ending.toList.length) text.toList
    rw [hdrop] at hsplit
    rw [← String.toList_inj, String.toList_append, String.toList_ofList, hsplit]
  · cases h

/-- The address of a set of keys is not that of a discovery document. -/
theorem address_openid_ne_jwks
    (uri other : String) :
    uri ++ Document.openid.suffix ≠ other ++ Document.jwks.suffix := by
  intro h
  have hlast := congrArg (fun text => text.toList.getLast?) h
  simp [Document.suffix] at hlast

/-- No address is that of two documents. -/
theorem address_inj
    {uri other : String} {document another : Document}
    (h : uri ++ document.suffix = other ++ another.suffix) :
    uri = other ∧ document = another := by
  have hdocument : document = another := by
    cases document with
    | openid =>
        cases another with
        | openid => rfl
        | jwks => exact absurd h (address_openid_ne_jwks uri other)
    | jwks =>
        cases another with
        | openid => exact absurd h.symm (address_openid_ne_jwks other uri)
        | jwks => rfl
  subst hdocument
  have hdrop := congrArg (dropSuffix? document.suffix) h
  rw [dropSuffix?_append, dropSuffix?_append] at hdrop
  exact ⟨Option.some.inj hdrop, rfl⟩

/-- Different URIs have different URLs. -/
theorem Provider.issuerUrl_inj
    {provider : Provider} {uri other : String} :
    provider.issuerUrl uri = provider.issuerUrl other ↔ uri = other := by
  simp [issuerUrl]

/-- An issuer answers at a path if this is the address of one of its documents, if it is the one
that is found for its URI, and, for a set of keys, if it has keys to publish. -/
theorem Resolver.forPath_eq_some_iff
    {resolver : Resolver} {path : String} {document : Document} {issuer : Issuer} :
    resolver.forPath path document = some issuer ↔
      path = issuer.uri ++ document.suffix ∧
        resolver.factories.findSome? (fun factory => factory.forUri issuer.uri) = some issuer ∧
        (document = .jwks → issuer.defaultCredentials ≠ []) := by
  simp only [forPath, Option.bind_eq_bind, Option.bind_eq_some_iff]
  constructor
  · rintro ⟨uri, hsuffix, found, hfound, hrest⟩
    have hpath := eq_append_of_dropSuffix? hsuffix
    split at hrest
    · cases hrest
    · next huri =>
      obtain rfl := Decidable.not_not.mp huri
      split at hrest
      · cases hrest
      · next hdefaults =>
        cases hrest
        refine ⟨hpath, hfound, ?_⟩
        intro hjwks hempty
        exact hdefaults ⟨hjwks, List.isEmpty_iff.mpr hempty⟩
  · rintro ⟨rfl, hfound, hdefaults⟩
    refine ⟨issuer.uri, dropSuffix?_append _ _, issuer, hfound, ?_⟩
    rw [if_neg (Decidable.not_not.mpr rfl), if_neg]
    rintro ⟨hjwks, hempty⟩
    exact hdefaults hjwks (List.isEmpty_iff.mp hempty)

namespace Resolver

variable {resolver : Resolver} {path : String}

/-- At the address of one document no other is looked up. -/
theorem forPath_eq_none_of_ne
    {uri : String} {document another : Document}
    (h : another ≠ document) :
    resolver.forPath (uri ++ document.suffix) another = none := by
  rw [Option.eq_none_iff_forall_ne_some]
  intro found hfound
  obtain ⟨haddress, -⟩ := forPath_eq_some_iff.mp hfound
  exact h (address_inj haddress).2.symm

/-- The discovery document at a path is that of the issuer that is found there. -/
theorem resolve_eq_discovery_iff
    {document : Discovery} :
    resolver.resolve path = some (.discovery document) ↔
      ∃ issuer, resolver.forPath path .openid = some issuer ∧ document = .ofIssuer issuer.url := by
  unfold resolve
  constructor
  · intro hresolve
    split at hresolve
    · next issuer hissuer =>
      cases hresolve
      exact ⟨issuer, hissuer, rfl⟩
    · obtain ⟨issuer, -, hfalse⟩ := Option.map_eq_some_iff.mp hresolve
      cases hfalse
  · rintro ⟨issuer, hissuer, rfl⟩
    rw [hissuer]

/-- The set of keys at a path is that of the issuer that is found there. -/
theorem resolve_eq_jwks_iff
    {set : JwkSet} :
    resolver.resolve path = some (.jwks set) ↔
      ∃ issuer, resolver.forPath path .jwks = some issuer ∧ set = .ofIssuer issuer := by
  unfold resolve
  constructor
  · intro hresolve
    split at hresolve
    · cases hresolve
    · obtain ⟨issuer, hissuer, hset⟩ := Option.map_eq_some_iff.mp hresolve
      cases hset
      exact ⟨issuer, hissuer, rfl⟩
  · rintro ⟨issuer, hissuer, rfl⟩
    obtain ⟨rfl, -⟩ := forPath_eq_some_iff.mp hissuer
    rw [forPath_eq_none_of_ne (by decide : Document.openid ≠ .jwks), hissuer]
    rfl

end Resolver

namespace Store

variable {master : MasterKey} {provider : Provider} {store : Store} {issuer : Issuer}
  {path : String}

/-- An address is looked up among the issuers of the store. -/
theorem resolver_forUri
    (store : Store) (uri : String) :
    store.resolver.factories.findSome? (fun factory => factory.forUri uri)
      = Scope.find? store.issuers uri := by
  simp only [resolver, factory, Scope.factory, List.findSome?_cons, List.findSome?_nil]
  cases Scope.find? store.issuers uri <;> rfl

/-- So is the scope that an administrator looks at. -/
theorem resolver_forConfig
    (store : Store) (scope : String) :
    store.resolver.forConfig scope = Scope.find? store.issuers scope :=
  store.resolver_forUri scope

theorem WellFormed.forPath_eq_some_iff
    {document : Document}
    (h : store.WellFormed master provider) :
    store.resolver.forPath path document = some issuer ↔
      issuer ∈ store.issuers ∧ path = issuer.uri ++ document.suffix ∧
        (document = .jwks → issuer.defaultCredentials ≠ []) := by
  rw [Resolver.forPath_eq_some_iff, resolver_forUri]
  constructor
  · rintro ⟨hpath, hfound, hdefaults⟩
    exact ⟨List.mem_of_find?_eq_some hfound, hpath, hdefaults⟩
  · rintro ⟨hissuer, hpath, hdefaults⟩
    exact ⟨hpath, find?_of_nodup h.uris hissuer, hdefaults⟩

/-- Each issuer of a store has its discovery document, and there are no others. -/
theorem WellFormed.resolve_eq_discovery_iff
    {document : Discovery}
    (h : store.WellFormed master provider) :
    store.resolver.resolve path = some (.discovery document) ↔
      ∃ issuer ∈ store.issuers, path = issuer.uri ++ Document.openid.suffix ∧
        document = .ofIssuer issuer.url := by
  rw [Resolver.resolve_eq_discovery_iff]
  constructor
  · rintro ⟨issuer, hissuer, rfl⟩
    obtain ⟨hmem, hpath, -⟩ := h.forPath_eq_some_iff.mp hissuer
    exact ⟨issuer, hmem, hpath, rfl⟩
  · rintro ⟨issuer, hissuer, hpath, rfl⟩
    exact ⟨issuer, h.forPath_eq_some_iff.mpr ⟨hissuer, hpath, by rintro ⟨⟩⟩, rfl⟩

/-- Each issuer with default credentials has its set of keys, and there are no others. -/
theorem WellFormed.resolve_eq_jwks_iff
    {set : JwkSet}
    (h : store.WellFormed master provider) :
    store.resolver.resolve path = some (.jwks set) ↔
      ∃ issuer ∈ store.issuers, path = issuer.uri ++ Document.jwks.suffix ∧
        issuer.defaultCredentials ≠ [] ∧ set = .ofIssuer issuer := by
  rw [Resolver.resolve_eq_jwks_iff]
  constructor
  · rintro ⟨issuer, hissuer, rfl⟩
    obtain ⟨hmem, hpath, hdefaults⟩ := h.forPath_eq_some_iff.mp hissuer
    exact ⟨issuer, hmem, hpath, hdefaults rfl, rfl⟩
  · rintro ⟨issuer, hissuer, hpath, hdefaults, rfl⟩
    exact ⟨issuer, h.forPath_eq_some_iff.mpr ⟨hissuer, hpath, fun _ => hdefaults⟩, rfl⟩

end Store

@[simp] theorem Credential.kid_jwk
    (credential : Credential) :
    credential.jwk.kid = credential.id := by
  unfold Credential.jwk Jwk.ofPair
  split <;> rfl

/-- An issuer publishes the keys of its default credentials, in their order. -/
theorem JwkSet.keys_ofIssuer
    (issuer : Issuer) :
    (ofIssuer issuer).keys = issuer.defaultCredentials.map Credential.jwk := by
  unfold ofIssuer Issuer.defaultCredentials
  induction issuer.credentials with
  | nil => rfl
  | cons credential rest ih =>
      cases hissuer : credential.issuer with
      | some name =>
          rw [List.filter_cons_of_neg (by simp [hissuer]), ← ih]
          simp only [List.filterMap_cons, hissuer]
      | none =>
          rw [List.filter_cons_of_pos (by simp [hissuer]), List.map_cons, ← ih]
          simp only [List.filterMap_cons, hissuer]

/-- The key ids of a set are the ids of the default credentials. -/
theorem JwkSet.kids_ofIssuer
    (issuer : Issuer) :
    (ofIssuer issuer).keys.map Jwk.kid = issuer.defaultCredentials.map Credential.id := by
  rw [keys_ofIssuer, List.map_map]
  exact List.map_congr_left fun credential _ => credential.kid_jwk

end WorkloadIdentity
