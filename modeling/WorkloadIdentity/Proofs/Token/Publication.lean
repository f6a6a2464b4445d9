import WorkloadIdentity.Proofs.Metadata.Addresses
import WorkloadIdentity.Proofs.Scope.Visibility
import WorkloadIdentity.Token

/-!
# Tokens name an issuer that lists their credential

A token for a build names the innermost issuer around the build that lists a credential with the
id of the one that signs; a token for no build names the root.  That issuer publishes the key of
its own credential with the id, unless that credential signs in another name.  Where scopes list
the same id one inside the other, this may be another key than the one that signs.

* `Store.WellFormed.publishes_iff`: what an issuer publishes under the id of a credential.
* `Store.WellFormed.forCredential_ok`: the issuer in whose name a credential signs.
* `Store.claims_name_innermost`: what the issuer that a token names publishes for the token.
-/

namespace WorkloadIdentity

/-- An issuer publishes the keys of those of its credentials that sign in its own name. -/
theorem JwkSet.mem_ofIssuer_iff
    {issuer : Issuer} {key : Jwk} :
    key ∈ (JwkSet.ofIssuer issuer).keys ↔
      ∃ credential ∈ issuer.credentials, credential.issuer = none ∧ credential.jwk = key := by
  rw [keys_ofIssuer, List.mem_map]
  simp only [Issuer.defaultCredentials, List.mem_filter, Option.isNone_iff_eq_none, and_assoc]

/-- Under an id that is listed once, an issuer publishes the key of the credential with the id or
nothing. -/
theorem JwkSet.find?_ofIssuer
    {issuer : Issuer} {credential : Credential}
    (hids : (issuer.credentials.map Credential.id).Nodup)
    (hcredential : credential ∈ issuer.credentials) :
    (JwkSet.ofIssuer issuer).find? credential.id
      = if credential.issuer = none then some credential.jwk else none := by
  have hsame : ∀ key ∈ (JwkSet.ofIssuer issuer).keys, (key.kid == credential.id) = true →
      credential.issuer = none ∧ key = credential.jwk := by
    intro key hkey hkid
    obtain ⟨other, hother, hdefault, rfl⟩ := mem_ofIssuer_iff.mp hkey
    have hid : other.id = credential.id := by simpa using hkid
    obtain rfl := List.inj_on_of_nodup_map hids hother hcredential hid
    exact ⟨hdefault, rfl⟩
  rw [find?]
  split
  · next hdefault =>
    refine find?_of_unique (mem_ofIssuer_iff.mpr ⟨credential, hcredential, hdefault, rfl⟩) ?_ ?_
    · simp
    · exact fun key hkey hkid => (hsame key hkey hkid).2
  · next hother =>
    rw [List.find?_eq_none]
    intro key hkey hkid
    exact hother (hsame key hkey hkid).1

namespace Store

variable {master : MasterKey} {provider : Provider} {store : Store} {issuer : Issuer}
  {credential : Credential}

/-- The set of keys that a store serves for a URI holds a key under an id. -/
def Publishes
    (store : Store)
    (uri id : String)
    (key : Jwk) : Prop :=
  ∃ set, store.resolver.resolve (uri ++ Document.jwks.suffix) = some (.jwks set) ∧
    set.find? id = some key

/-- Under the id of one of its credentials an issuer publishes the credential's key and no other,
and nothing if the credential signs in another name. -/
theorem WellFormed.publishes_iff
    {key : Jwk}
    (h : store.WellFormed master provider)
    (hissuer : issuer ∈ store.issuers)
    (hcredential : credential ∈ issuer.credentials) :
    store.Publishes issuer.uri credential.id key ↔
      credential.issuer = none ∧ credential.jwk = key := by
  have hfind := JwkSet.find?_ofIssuer (h.issuers issuer hissuer).ids hcredential
  constructor
  · rintro ⟨set, hset, hkey⟩
    obtain ⟨other, hother, haddress, -, rfl⟩ := h.resolve_eq_jwks_iff.mp hset
    obtain rfl := List.inj_on_of_nodup_map h.uris hother hissuer (address_inj haddress).1.symm
    by_cases hdefault : credential.issuer = none
    · rw [if_pos hdefault] at hfind
      exact ⟨hdefault, Option.some.inj (hfind.symm.trans hkey)⟩
    · rw [if_neg hdefault] at hfind
      cases hfind.symm.trans hkey
  · rintro ⟨hdefault, rfl⟩
    have hlisted : credential ∈ issuer.defaultCredentials :=
      List.mem_filter.mpr ⟨hcredential, by simp [hdefault]⟩
    have hserved := h.resolve_eq_jwks_iff.mpr
      ⟨issuer, hissuer, rfl, List.ne_nil_of_mem hlisted, rfl⟩
    exact ⟨.ofIssuer issuer, hserved, hfind.trans (if_pos hdefault)⟩

end Store

/-- A credential of a scope is open to the builds in the scope and below it; one of the root also
to no build at all. -/
def Scope.Admits
    (uri : String) : Option Build → Prop
  | none => uri = ""
  | some build => uri = "" ∨ Below uri build.scope

namespace Store

variable {master : MasterKey} {provider : Provider} {store : Store} {issuer : Issuer}
  {credential : Credential} {context : Option Build}

/-- A credential of a store signs in the name of the innermost issuer that is open to the build
and lists its id. -/
theorem WellFormed.forCredential_ok
    (h : store.WellFormed master provider)
    (hissuer : issuer ∈ store.issuers)
    (hcredential : issuer.contains credential.id = true)
    (hcontext : Scope.Admits issuer.uri context) :
    ∃ governing ∈ store.issuers,
      store.resolver.forCredential credential context = .ok governing ∧
        Scope.Admits governing.uri context ∧
        governing.contains credential.id = true ∧
        ∀ other ∈ store.issuers, Scope.Admits other.uri context →
          other.contains credential.id = true → Scope.encloses other.uri governing.uri = true := by
  cases context with
  | none =>
      obtain rfl : issuer = store.root :=
        List.inj_on_of_nodup_map h.uris hissuer h.root_mem (hcontext.trans h.root_uri.symm)
      refine ⟨store.root, h.root_mem, rfl, hcontext, hcredential, ?_⟩
      intro other _ hother _
      exact Scope.encloses_iff.mpr (Or.inl hother)
  | some build =>
      have hadmits (uri : String) :
          Scope.Admits uri (some build) ↔ Scope.encloses uri build.scope = true :=
        Scope.encloses_iff.symm
      cases hfind : (Scope.visible store.issuers build.scope).find?
          fun issuer => issuer.contains credential.id with
      | none =>
          have hnot := List.find?_eq_none.mp hfind issuer
            (Scope.mem_visible_iff.mpr ⟨hissuer, (hadmits _).mp hcontext⟩)
          exact absurd hcredential hnot
      | some governing =>
          obtain ⟨hgoverning, hencloses, hcontains, hinner⟩ := Scope.find?_visible hfind
          refine ⟨governing, hgoverning, ?_, (hadmits _).mpr hencloses, hcontains, ?_⟩
          · simp [Resolver.forCredential, resolver, factory, Scope.factory, hfind]
          · intro other hother hotherAdmits
            exact hinner other hother ((hadmits _).mp hotherAdmits)

/-- A token for a credential of a restored store, in whose scope or below it the build runs, names
exactly one issuer of the store: the innermost one that is open to the build and lists the
credential's id.  Under this id the issuer publishes the key of its own credential with the id, or
nothing if that credential signs in another name.  So it publishes the key that signs where it is
the issuer of the credential's own scope, and elsewhere only if both keys are the same. -/
theorem claims_name_innermost
    {file after : StoreFile} {count : Nat} {entropy rest : Entropy}
    (h : (restore master provider file).run entropy = (⟨after, .ok (store, count)⟩, rest))
    (hissuer : issuer ∈ store.issuers)
    (hcredential : credential ∈ issuer.credentials)
    (hdefault : credential.issuer = none)
    (hcontext : Scope.Admits issuer.uri context)
    (now : UInt64) :
    ∃ claims, TokenIssuer.claims ⟨provider, store.resolver⟩ credential context now = .ok claims ∧
      ∃ governing ∈ store.issuers, ∃ signer ∈ governing.credentials,
        (∀ uri, provider.issuerUrl uri = claims.issuer ↔ uri = governing.uri) ∧
        Scope.Admits governing.uri context ∧
        (∀ other ∈ store.issuers, Scope.Admits other.uri context →
          other.contains credential.id = true →
          Scope.encloses other.uri governing.uri = true) ∧
        signer.id = credential.id ∧
        (governing.uri = issuer.uri → signer = credential) ∧
        ∀ key, store.Publishes governing.uri credential.id key ↔
          signer.issuer = none ∧ signer.jwk = key := by
  have hstore := restore_wellFormed h
  have hlists : issuer.contains credential.id = true :=
    List.any_eq_true.mpr ⟨credential, hcredential, beq_self_eq_true _⟩
  obtain ⟨governing, hgoverning, hfound, hadmits, hcontains, hinner⟩ :=
    hstore.forCredential_ok hissuer hlists hcontext
  obtain ⟨signer, hsigner, hid⟩ := List.any_eq_true.mp hcontains
  have hid : signer.id = credential.id := by simpa using hid
  simp only [TokenIssuer.claims, hdefault, hfound, bind, Except.bind]
  refine ⟨_, rfl, governing, hgoverning, signer, hsigner, ?_, hadmits, hinner, hid, ?_, ?_⟩
  · intro uri
    rw [(hstore.issuers governing hgoverning).url_eq, Provider.issuerUrl_inj]
  · intro huri
    obtain rfl := List.inj_on_of_nodup_map hstore.uris hgoverning hissuer huri
    exact List.inj_on_of_nodup_map (hstore.issuers governing hgoverning).ids hsigner hcredential hid
  · intro key
    rw [← hid]
    exact hstore.publishes_iff hgoverning hsigner

/-- A credential without texts of its own. -/
def plainCredential (pair : KeyPair) (keys : SealedKeys) : Credential :=
  ⟨"deploy", none, none, none, pair, keys⟩

theorem exists_plainCredential
    {pair : KeyPair} {bytes : Bytes}
    (h : pair.privateBytes = .ok bytes)
    (master : MasterKey) :
    ∃ keys, (plainCredential pair keys).WellKept master :=
  Credential.exists_wellKept h (Option.some_ne_none "").symm (Option.some_ne_none "").symm
    (Option.some_ne_none "").symm master "deploy"

/-- A store whose root and a scope below it list the same id. -/
def nestedFile (outer inner : SealedKeys) : StoreFile :=
  ⟨[⟨"", [⟨"deploy", none, none, none, .current outer⟩]⟩,
    ⟨"/job", [⟨"deploy", none, none, none, .current inner⟩]⟩]⟩

/-- The issuers of a store whose root and a scope below it list the same id. -/
def nestedIssuers (provider : Provider) (outer inner : Credential) : List Issuer :=
  [.ofProvider provider "" [outer], .ofProvider provider "/job" [inner]]

/-- Key pairs that have encodings can be kept under the same id in nested scopes. -/
theorem nested_restore_run
    {outerPair innerPair : KeyPair} {outerBytes innerBytes : Bytes}
    (houter : outerPair.privateBytes = .ok outerBytes)
    (hinner : innerPair.privateBytes = .ok innerBytes)
    (master : MasterKey) (provider : Provider) :
    ∃ outer inner, ∀ entropy,
      (restore master provider (nestedFile outer inner)).run entropy
        = (⟨nestedFile outer inner, .ok (ofIssuers provider (nestedIssuers provider
            (plainCredential outerPair outer) (plainCredential innerPair inner)), 0)⟩,
          entropy) := by
  obtain ⟨outer, -, -, houter⟩ := @KeyPair.toRecord_run_ok master outerPair ⟨fun _ => 0, 0⟩ _ houter
  obtain ⟨inner, -, -, hinner⟩ := @KeyPair.toRecord_run_ok master innerPair ⟨fun _ => 0, 0⟩ _ hinner
  have hopens {pair : KeyPair} {keys : SealedKeys} (h : keys.decrypt master = .ok pair) :
      CredentialRecord.Opens master ⟨"deploy", none, none, none, .current keys⟩
        (plainCredential pair keys) :=
    ⟨rfl, rfl, rfl, rfl, KeyRecord.opens_current h⟩
  refine ⟨outer, inner, fun entropy => restore_run_of_opens ?_ ?_ ?_⟩
  · rw [StoreFile.wellFormed_iff_outline]
    show (["", "/job"] : List String).Nodup ∧ ∀ entry ∈ [("", ["deploy"]), ("/job", ["deploy"])],
      Scope.isValid entry.1 = true ∧ entry.2.Nodup
    decide
  · exact .cons ⟨rfl, rfl, .cons (hopens houter) .nil⟩
      (.cons ⟨rfl, rfl, .cons (hopens hinner) .nil⟩ .nil)
  · simp [StoreFile.IsCurrent, nestedFile, KeyRecord.isLegacy]

/-- A provider for samples. -/
def sampleProvider : Provider :=
  ⟨"https://ci.example.org"⟩

/-- A token for no build names the root, which publishes the key that signs. -/
theorem nested_root_claims :
    ∃ outer inner claims, TokenIssuer.claims
        ⟨sampleProvider, (ofIssuers sampleProvider (nestedIssuers sampleProvider
          (plainCredential .least outer) (plainCredential .small inner))).resolver⟩
        (plainCredential .least outer) none 0 = .ok claims ∧
      (∀ uri, sampleProvider.issuerUrl uri = claims.issuer ↔ uri = "") ∧
      Publishes (ofIssuers sampleProvider (nestedIssuers sampleProvider
        (plainCredential .least outer) (plainCredential .small inner))) "" "deploy"
        (plainCredential .least outer).jwk := by
  obtain ⟨outerBytes, houter⟩ := KeyPair.privateBytes_least
  obtain ⟨innerBytes, hinner⟩ := KeyPair.privateBytes_small
  obtain ⟨outer, inner, hrun⟩ := nested_restore_run houter hinner .uniform sampleProvider
  obtain ⟨claims, hclaims, governing, -, signer, -, huri, hadmits, -, -, hsame, hpublishes⟩ :=
    @claims_name_innermost .uniform sampleProvider _ (.ofProvider sampleProvider ""
      [plainCredential .least outer]) (plainCredential .least outer) none _ _ 0 ⟨fun _ => 0, 0⟩ _
      (hrun ⟨fun _ => 0, 0⟩) List.mem_cons_self List.mem_cons_self rfl rfl 0
  have hroot : governing.uri = "" := hadmits
  obtain rfl := hsame hroot
  rw [hroot] at huri hpublishes
  exact ⟨outer, inner, claims, hclaims, huri, (hpublishes _).mpr ⟨rfl, rfl⟩⟩

/-- A token for a build in the inner scope names that scope also where the credential of the root
signs; under the credential's id the inner scope publishes its own key. -/
theorem nested_claims_name_another_key :
    ∃ outer inner store,
      (∀ entropy, (restore .uniform sampleProvider (nestedFile outer inner)).run entropy
        = (⟨nestedFile outer inner, .ok (store, 0)⟩, entropy)) ∧
      ∃ issuer ∈ store.issuers, ∃ credential ∈ issuer.credentials,
        credential.issuer = none ∧
        Scope.Admits issuer.uri (some ⟨"https://ci.example.org/job/app/", 1, "/job"⟩) ∧
        ∃ claims, TokenIssuer.claims ⟨sampleProvider, store.resolver⟩ credential
            (some ⟨"https://ci.example.org/job/app/", 1, "/job"⟩) 0 = .ok claims ∧
          ∀ uri, sampleProvider.issuerUrl uri = claims.issuer →
            ¬ store.Publishes uri credential.id credential.jwk := by
  obtain ⟨outerBytes, houter⟩ := KeyPair.privateBytes_least
  obtain ⟨innerBytes, hinner⟩ := KeyPair.privateBytes_small
  obtain ⟨outer, inner, hrun⟩ := nested_restore_run houter hinner .uniform sampleProvider
  have hstore := restore_wellFormed (hrun ⟨fun _ => 0, 0⟩)
  refine ⟨outer, inner, _, hrun, .ofProvider sampleProvider "" [plainCredential .least outer],
    List.mem_cons_self, plainCredential .least outer, List.mem_cons_self, rfl, Or.inl rfl, ?_⟩
  obtain ⟨governing, hgoverning, hfound, -, -, hinnermost⟩ :=
    @WellFormed.forCredential_ok _ _ _ (.ofProvider sampleProvider ""
      [plainCredential .least outer]) (plainCredential .least outer)
      (some ⟨"https://ci.example.org/job/app/", 1, "/job"⟩) hstore List.mem_cons_self rfl
      (Or.inl rfl)
  have hencloses := hinnermost (.ofProvider sampleProvider "/job" [plainCredential .small inner])
    (List.mem_cons_of_mem _ List.mem_cons_self) (Or.inr (Or.inl rfl)) rfl
  have hkeys : (plainCredential .small inner).jwk ≠ (plainCredential .least outer).jwk := by
    show Jwk.ofPair "deploy" .small ≠ Jwk.ofPair "deploy" .least
    decide +kernel
  rcases List.mem_cons.mp hgoverning with rfl | hrest
  · have hnot : Scope.encloses "/job" "" = false := by decide
    cases hnot.symm.trans hencloses
  · obtain rfl := List.mem_singleton.mp hrest
    simp only [TokenIssuer.claims, plainCredential, bind, Except.bind] at hfound ⊢
    rw [hfound]
    refine ⟨_, rfl, ?_⟩
    intro uri huri hpublishes
    obtain rfl := Provider.issuerUrl_inj.mp huri
    obtain ⟨-, hkey⟩ := (hstore.publishes_iff hgoverning List.mem_cons_self).mp hpublishes
    exact hkeys hkey

end Store
end WorkloadIdentity
