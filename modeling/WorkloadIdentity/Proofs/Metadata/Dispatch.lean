import WorkloadIdentity.Proofs.Store.Acceptance
import WorkloadIdentity.Proofs.Token.Publication

/-!
# Which document is served at which path

Every scope of a store has a discovery document at an address of its own, and so has the root.  A
scope with credentials that sign in its own name also has a set of keys.  Nothing else is served,
no address is that of two documents, and no key fails to be encoded, for a key pair holds a key of
the kind that its algorithm needs.

* `Resolver.serve_eq`: comparing each key with its algorithm refuses nothing.
* `Store.restore_serves`: what is served for a file that restores.
-/

namespace WorkloadIdentity

theorem KeyPair.kind_components
    (pair : KeyPair) :
    pair.components.kind = pair.algorithm.kind := by
  obtain ⟨algorithm, material, fits⟩ := pair
  cases material with
  | rsa key consistent publishable => exact fits
  | ec curve key => exact fits

theorem Jwk.encode_eq
    (kid : String) (pair : KeyPair) :
    encode kid pair = .ok (ofPair kid pair) :=
  if_pos pair.kind_components

theorem Jwk.encodeAll_eq
    (credentials : List Credential) :
    encodeAll credentials
      = .ok ((credentials.filter fun credential => credential.issuer.isNone).map
          Credential.jwk) := by
  induction credentials with
  | nil => rfl
  | cons credential rest ih =>
      cases hissuer : credential.issuer with
      | some name =>
          rw [List.filter_cons_of_neg (by simp [hissuer]), ← ih]
          simp only [encodeAll, hissuer]
      | none =>
          rw [List.filter_cons_of_pos (by simp [hissuer])]
          simp only [encodeAll, hissuer, encode_eq, ih, bind, Except.bind]
          rfl

/-- Comparing each key with its algorithm refuses nothing. -/
theorem Resolver.serve_eq
    (resolver : Resolver) (path : String) :
    resolver.serve path = .ok (resolver.resolve path) := by
  unfold serve resolve
  cases resolver.forPath path .openid with
  | some issuer => rfl
  | none =>
      cases resolver.forPath path .jwks with
      | none => rfl
      | some issuer =>
          have hkeys : Jwk.encodeAll issuer.credentials = .ok (JwkSet.ofIssuer issuer).keys := by
            rw [Jwk.encodeAll_eq, JwkSet.keys_ofIssuer]
            rfl
          simp only [hkeys, bind, Except.bind]
          rfl

theorem Resolver.serve_eq_ok_iff
    {resolver : Resolver} {path : String} {answer : Option Metadata} :
    resolver.serve path = .ok answer ↔ resolver.resolve path = answer := by
  rw [serve_eq, Except.ok.injEq]

/-- The records of the credentials that sign in the scope's own name. -/
def ScopeRecord.defaults (scope : ScopeRecord) : List CredentialRecord :=
  scope.credentials.filter fun record => (Credential.unlessEmpty record.issuer).isNone

/-- The key is the public key of the pair that the record loads, under the record's id. -/
def CredentialRecord.Publishes
    (master : MasterKey)
    (record : CredentialRecord)
    (key : Jwk) : Prop :=
  ∃ pair, record.keys.Loads master pair ∧ key = Jwk.ofPair record.id pair

/-- The set holds the keys of the scope's default records, in their order, each under an id of its
own. -/
structure ScopeRecord.Publishes
    (master : MasterKey)
    (scope : ScopeRecord)
    (set : JwkSet) : Prop where
  keys : List.Forall₂ (CredentialRecord.Publishes master) scope.defaults set.keys
  kids : (set.keys.map Jwk.kid).Nodup

/-- A file has a document for a URI: a discovery document for every scope and for the root, a set
of keys for a scope with default records. -/
def StoreFile.Offers
    (file : StoreFile)
    (uri : String) : Document → Prop
  | .openid => uri = "" ∨ ∃ scope ∈ file.scopes, scope.uri = uri
  | .jwks => ∃ scope ∈ file.scopes, scope.uri = uri ∧ scope.defaults ≠ []

/-- A resolver serves exactly what a file offers, each document at its address. -/
structure StoreFile.ServedBy
    (master : MasterKey)
    (provider : Provider)
    (file : StoreFile)
    (resolver : Resolver) : Prop where
  succeeds : ∀ path, ∃ answer, resolver.serve path = .ok answer
  discovery : ∀ path document, resolver.serve path = .ok (some (.discovery document)) ↔
    ∃ uri, file.Offers uri .openid ∧ path = uri ++ Document.openid.suffix ∧
      document = .ofIssuer (provider.issuerUrl uri)
  jwks : ∀ path, (∃ set, resolver.serve path = .ok (some (.jwks set))) ↔
    ∃ uri, file.Offers uri .jwks ∧ path = uri ++ Document.jwks.suffix
  keys : ∀ scope ∈ file.scopes, ∀ set,
    resolver.serve (scope.uri ++ Document.jwks.suffix) = .ok (some (.jwks set)) →
      scope.Publishes master set
  nothing : ∀ path, resolver.serve path = .ok none ↔
    ∀ uri document, file.Offers uri document → path ≠ uri ++ document.suffix
  addresses : ∀ uri other document another,
    file.Offers uri document → file.Offers other another →
      uri ++ document.suffix = other ++ another.suffix → uri = other ∧ document = another
  /-- The address of keys in a discovery document is that of the keys of the same scope. -/
  advertised : ∀ path document, resolver.serve path = .ok (some (.discovery document)) →
    ∃ uri address, path = uri ++ Document.openid.suffix ∧
      document.jwksUri = provider.rootUrl ++ Provider.servedAt ++ address ∧
      ∀ scope ∈ file.scopes, scope.uri = uri → scope.defaults ≠ [] →
        ∃ set, resolver.serve address = .ok (some (.jwks set)) ∧ scope.Publishes master set

section Records

variable {master : MasterKey} {provider : Provider} {scope : ScopeRecord} {issuer : Issuer}
  {record : CredentialRecord} {credential : Credential}

/-- The key that is published for a record is that of the credential that it gives. -/
theorem CredentialRecord.Opens.publishes
    (h : record.Opens master credential)
    (hkeys : record.KeysOpen master) :
    record.Publishes master credential.jwk := by
  obtain ⟨pair, hpair⟩ := hkeys
  obtain rfl := h.keys.opened_eq (KeyRecord.opened_eq_ok_iff.mpr hpair)
  refine ⟨_, hpair, ?_⟩
  rw [← h.id_eq]
  rfl

theorem ScopeRecord.Opens.defaults
    (h : scope.Opens master provider issuer) :
    List.Forall₂ (CredentialRecord.Opens master) scope.defaults issuer.defaultCredentials := by
  refine List.rel_filter ?_ h.credentials
  intro record credential hrecord
  simp only [hrecord.issuer_eq]

theorem ScopeRecord.Opens.defaults_ne_nil_iff
    (h : scope.Opens master provider issuer) :
    scope.defaults ≠ [] ↔ issuer.defaultCredentials ≠ [] := by
  have hlength := h.defaults.length_eq
  rw [← List.length_pos_iff, ← List.length_pos_iff, hlength]

/-- The issuer that a scope gives publishes the keys of the scope. -/
theorem ScopeRecord.Opens.publishes
    (h : scope.Opens master provider issuer)
    (hsound : scope.Sound master) :
    scope.Publishes master (.ofIssuer issuer) where
  keys := by
    rw [JwkSet.keys_ofIssuer, List.forall₂_map_right_iff, List.forall₂_iff_zip]
    refine ⟨h.defaults.length_eq, ?_⟩
    intro record credential hentry
    have hrecord := (List.forall₂_iff_zip.mp h.defaults).2 hentry
    have hlisted := (List.mem_filter.mp (List.of_mem_zip hentry).1).1
    exact hrecord.publishes (hsound.keys record hlisted)
  kids := by
    have hids : (issuer.credentials.map Credential.id).Nodup := h.ids_eq ▸ hsound.ids
    rw [JwkSet.kids_ofIssuer]
    exact hids.sublist (List.filter_sublist.map Credential.id)

end Records

namespace Store

variable {master : MasterKey} {provider : Provider} {file : StoreFile} {issuers : List Issuer}
  {uri : String}

/-- The URIs with a discovery document are those of the issuers. -/
theorem offers_openid_iff
    (hfile : file.WellFormed)
    (hopens : file.Opens master provider issuers) :
    file.Offers uri .openid ↔
      ∃ issuer ∈ (ofIssuers provider issuers).issuers, issuer.uri = uri := by
  have hstore := wellFormed_of_opens hfile hopens
  constructor
  · rintro (rfl | ⟨scope, hscope, rfl⟩)
    · exact ⟨_, hstore.root_mem, hstore.root_uri⟩
    · obtain ⟨issuer, hissuer, hrelated⟩ := exists_issuer_of_scope hopens hscope
      exact ⟨issuer, hissuer, hrelated.uri_eq⟩
  · rintro ⟨issuer, hissuer, rfl⟩
    rcases exists_scope_or_eq_root hopens hissuer with ⟨scope, hscope, hrelated⟩ | rfl
    · exact Or.inr ⟨scope, hscope, hrelated.uri_eq.symm⟩
    · exact Or.inl rfl

/-- The URIs with a set of keys are those of the issuers with default credentials. -/
theorem offers_jwks_iff
    (hopens : file.Opens master provider issuers) :
    file.Offers uri .jwks ↔
      ∃ issuer ∈ (ofIssuers provider issuers).issuers, issuer.uri = uri ∧
        issuer.defaultCredentials ≠ [] := by
  constructor
  · rintro ⟨scope, hscope, rfl, hdefaults⟩
    obtain ⟨issuer, hissuer, hrelated⟩ := exists_issuer_of_scope hopens hscope
    exact ⟨issuer, hissuer, hrelated.uri_eq, hrelated.defaults_ne_nil_iff.mp hdefaults⟩
  · rintro ⟨issuer, hissuer, rfl, hdefaults⟩
    rcases exists_scope_or_eq_root hopens hissuer with ⟨scope, hscope, hrelated⟩ | rfl
    · exact ⟨scope, hscope, hrelated.uri_eq.symm, hrelated.defaults_ne_nil_iff.mpr hdefaults⟩
    · exact absurd rfl hdefaults

theorem resolve_eq_discovery_iff
    {path : String} {document : Discovery}
    (hfile : file.WellFormed)
    (hopens : file.Opens master provider issuers) :
    (ofIssuers provider issuers).resolver.resolve path = some (.discovery document) ↔
      ∃ uri, file.Offers uri .openid ∧ path = uri ++ Document.openid.suffix ∧
        document = .ofIssuer (provider.issuerUrl uri) := by
  have hstore := wellFormed_of_opens hfile hopens
  rw [hstore.resolve_eq_discovery_iff]
  constructor
  · rintro ⟨issuer, hissuer, hpath, rfl⟩
    refine ⟨issuer.uri, (offers_openid_iff hfile hopens).mpr ⟨issuer, hissuer, rfl⟩, hpath, ?_⟩
    rw [(hstore.issuers issuer hissuer).url_eq]
  · rintro ⟨uri, hoffers, hpath, rfl⟩
    obtain ⟨issuer, hissuer, rfl⟩ := (offers_openid_iff hfile hopens).mp hoffers
    refine ⟨issuer, hissuer, hpath, ?_⟩
    rw [(hstore.issuers issuer hissuer).url_eq]

theorem resolve_eq_jwks_iff
    {path : String}
    (hfile : file.WellFormed)
    (hopens : file.Opens master provider issuers) :
    (∃ set, (ofIssuers provider issuers).resolver.resolve path = some (.jwks set)) ↔
      ∃ uri, file.Offers uri .jwks ∧ path = uri ++ Document.jwks.suffix := by
  have hstore := wellFormed_of_opens hfile hopens
  constructor
  · rintro ⟨set, hset⟩
    obtain ⟨issuer, hissuer, hpath, hdefaults, -⟩ := hstore.resolve_eq_jwks_iff.mp hset
    exact ⟨issuer.uri, (offers_jwks_iff hopens).mpr ⟨issuer, hissuer, rfl, hdefaults⟩, hpath⟩
  · rintro ⟨uri, hoffers, hpath⟩
    obtain ⟨issuer, hissuer, rfl, hdefaults⟩ := (offers_jwks_iff hopens).mp hoffers
    exact ⟨_, hstore.resolve_eq_jwks_iff.mpr ⟨issuer, hissuer, hpath, hdefaults, rfl⟩⟩

/-- The set of keys at the address of a scope is the one that the scope publishes. -/
theorem publishes_of_resolve
    {scope : ScopeRecord} {set : JwkSet}
    (hsound : file.Sound master)
    (hopens : file.Opens master provider issuers)
    (hscope : scope ∈ file.scopes)
    (hset : (ofIssuers provider issuers).resolver.resolve (scope.uri ++ Document.jwks.suffix)
      = some (.jwks set)) :
    scope.Publishes master set := by
  have hstore := wellFormed_of_opens hsound.wellFormed hopens
  obtain ⟨found, hfound, haddress, -, rfl⟩ := hstore.resolve_eq_jwks_iff.mp hset
  obtain ⟨issuer, hissuer, hrelated⟩ := exists_issuer_of_scope hopens hscope
  have huri : found.uri = issuer.uri := (address_inj haddress).1.symm.trans hrelated.uri_eq.symm
  obtain rfl := List.inj_on_of_nodup_map hstore.uris hfound hissuer huri
  exact hrelated.publishes (hsound.scopes scope hscope)

theorem resolve_eq_none_iff
    {path : String}
    (hfile : file.WellFormed)
    (hopens : file.Opens master provider issuers) :
    (ofIssuers provider issuers).resolver.resolve path = none ↔
      ∀ uri document, file.Offers uri document → path ≠ uri ++ document.suffix := by
  constructor
  · intro hnone uri document hoffers hpath
    cases document with
    | openid =>
        have hsome := (resolve_eq_discovery_iff hfile hopens).mpr ⟨uri, hoffers, hpath, rfl⟩
        cases hnone.symm.trans hsome
    | jwks =>
        obtain ⟨set, hsome⟩ := (resolve_eq_jwks_iff hfile hopens).mpr ⟨uri, hoffers, hpath⟩
        cases hnone.symm.trans hsome
  · intro hnot
    cases hresolve : (ofIssuers provider issuers).resolver.resolve path with
    | none => rfl
    | some metadata =>
        cases metadata with
        | discovery document =>
            obtain ⟨uri, hoffers, hpath, -⟩ := (resolve_eq_discovery_iff hfile hopens).mp hresolve
            exact absurd hpath (hnot uri .openid hoffers)
        | jwks set =>
            obtain ⟨uri, hoffers, hpath⟩ := (resolve_eq_jwks_iff hfile hopens).mp ⟨set, hresolve⟩
            exact absurd hpath (hnot uri .jwks hoffers)

/-- The store of the issuers that a sound file opens to serves what the file offers. -/
theorem ofIssuers_serves
    (hsound : file.Sound master)
    (hopens : file.Opens master provider issuers) :
    file.ServedBy master provider (ofIssuers provider issuers).resolver := by
  have hfile := hsound.wellFormed
  constructor
  case succeeds =>
    intro path
    exact ⟨_, Resolver.serve_eq _ path⟩
  case discovery =>
    intro path document
    rw [Resolver.serve_eq_ok_iff]
    exact resolve_eq_discovery_iff hfile hopens
  case jwks =>
    intro path
    simp only [Resolver.serve_eq_ok_iff]
    exact resolve_eq_jwks_iff hfile hopens
  case keys =>
    intro scope hscope set hset
    exact publishes_of_resolve hsound hopens hscope (Resolver.serve_eq_ok_iff.mp hset)
  case nothing =>
    intro path
    rw [Resolver.serve_eq_ok_iff]
    exact resolve_eq_none_iff hfile hopens
  case addresses =>
    intro uri other document another _ _ haddress
    exact address_inj haddress
  case advertised =>
    intro path document hserve
    have hresolve := Resolver.serve_eq_ok_iff.mp hserve
    obtain ⟨uri, -, hpath, rfl⟩ := (resolve_eq_discovery_iff hfile hopens).mp hresolve
    refine ⟨uri, uri ++ Document.jwks.suffix, hpath, String.append_assoc, ?_⟩
    rintro scope hscope rfl hdefaults
    have hoffers : file.Offers scope.uri .jwks := ⟨scope, hscope, rfl, hdefaults⟩
    obtain ⟨set, hset⟩ := (resolve_eq_jwks_iff hfile hopens).mpr ⟨scope.uri, hoffers, rfl⟩
    exact ⟨set, Resolver.serve_eq_ok_iff.mpr hset, publishes_of_resolve hsound hopens hscope hset⟩

/-- For a file that restores, exactly what the file offers is served, each document at its own
address, and no key fails to be encoded. -/
theorem restore_serves
    {after : StoreFile} {store : Store} {count : Nat} {entropy rest : Entropy}
    (h : (restore master provider file).run entropy = (⟨after, .ok (store, count)⟩, rest)) :
    file.ServedBy master provider store.resolver := by
  have hsound := sound_of_restore_run_ok h
  obtain ⟨issuers, -, hopens, rfl, -⟩ := restore_run_ok h
  exact ofIssuers_serves hsound hopens

/-- Both of two nested scopes have a set of keys, though both list the same id. -/
theorem nested_serves :
    ∃ outer inner store, (∀ entropy,
      (restore .uniform sampleProvider (nestedFile outer inner)).run entropy
        = (⟨nestedFile outer inner, .ok (store, 0)⟩, entropy)) ∧
      (nestedFile outer inner).ServedBy .uniform sampleProvider store.resolver ∧
      (∃ set, store.resolver.serve "/jwks" = .ok (some (.jwks set))) ∧
      ∃ set, store.resolver.serve "/job/jwks" = .ok (some (.jwks set)) := by
  obtain ⟨outerBytes, houter⟩ := KeyPair.privateBytes_least
  obtain ⟨innerBytes, hinner⟩ := KeyPair.privateBytes_small
  obtain ⟨outer, inner, hrun⟩ := nested_restore_run houter hinner .uniform sampleProvider
  have hserved := restore_serves (hrun ⟨fun _ => 0, 0⟩)
  refine ⟨outer, inner, _, hrun, hserved, (hserved.jwks _).mpr ?_, (hserved.jwks _).mpr ?_⟩
  · exact ⟨"", ⟨_, List.mem_cons_self, rfl, List.cons_ne_nil _ _⟩, rfl⟩
  · exact ⟨"/job", ⟨_, List.mem_cons_of_mem _ List.mem_cons_self, rfl, List.cons_ne_nil _ _⟩,
      by decide⟩

end Store
end WorkloadIdentity
