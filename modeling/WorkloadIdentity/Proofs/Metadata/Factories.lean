import WorkloadIdentity.Proofs.Metadata.Dispatch

/-!
# Resolvers over any factories

A resolver believes no factory.  It asks its factories in order; the first one that answers
decides, so an issuer at another URI than was asked for closes the address, whatever the factories
behind it would say.  No empty set of keys is served, though the keys of a set and the condition
for serving one are found in two different ways.

* `FirstWith`: the first item of a list with a property.
* `Resolver.Answered`: what the first factory that answers says of a URI.
* `Resolver.trusts_no_factory`: the issuers that are found, and the sets of keys that are served.
-/

namespace WorkloadIdentity

section FirstWith

variable {α β : Type} {p : α → Prop} {items : List α} {item : α}

/-- The item has the property, and in the list none before it does. -/
structure FirstWith
    (p : α → Prop)
    (items : List α)
    (item : α) : Prop where
  holds : p item
  split : ∃ before after, items = before ++ item :: after ∧ ∀ earlier ∈ before, ¬ p earlier

theorem find?_eq_some_iff_firstWith
    {test : α → Bool}
    (htest : ∀ item, test item = true ↔ p item) :
    items.find? test = some item ↔ FirstWith p items item := by
  rw [List.find?_eq_some_iff_append, htest]
  simp only [Bool.not_eq_true', ← Bool.not_eq_true, htest]
  exact ⟨fun ⟨hholds, hsplit⟩ => ⟨hholds, hsplit⟩, fun h => ⟨h.holds, h.split⟩⟩

/-- The first result is that of the first item with a result. -/
theorem findSome?_eq_some_iff_firstWith
    {f : α → Option β} {result : β} :
    items.findSome? f = some result ↔
      ∃ item, FirstWith (fun item => f item ≠ none) items item ∧ f item = some result := by
  rw [List.findSome?_eq_some_iff]
  constructor
  · rintro ⟨before, item, after, hitems, hresult, hbefore⟩
    refine ⟨item, ⟨by simp [hresult], before, after, hitems, ?_⟩, hresult⟩
    intro earlier hearlier hsome
    exact hsome (hbefore earlier hearlier)
  · rintro ⟨item, ⟨-, before, after, hitems, hbefore⟩, hresult⟩
    exact ⟨before, item, after, hitems, hresult, fun earlier hearlier =>
      Decidable.not_not.mp (hbefore earlier hearlier)⟩

end FirstWith

/-- A credential of the issuer has the id. -/
def Issuer.Holds (issuer : Issuer) (id : String) : Prop :=
  ∃ credential ∈ issuer.credentials, credential.id = id

theorem Issuer.contains_iff_holds
    {issuer : Issuer} {id : String} :
    issuer.contains id = true ↔ issuer.Holds id := by
  simp [contains, Holds]

/-- The credentials without an issuer of their own are the default credentials. -/
theorem Issuer.defaultCredentials_ne_nil_iff
    {issuer : Issuer} :
    issuer.defaultCredentials ≠ [] ↔
      ∃ credential ∈ issuer.credentials, credential.issuer = none := by
  simp [defaultCredentials, List.filter_eq_nil_iff]

namespace Resolver

/-- The issuer is the answer of the first factory that answers for the URI. -/
def Answered (resolver : Resolver) (uri : String) (issuer : Issuer) : Prop :=
  ∃ factory, FirstWith (fun factory => factory.forUri uri ≠ none) resolver.factories factory ∧
    factory.forUri uri = some issuer

/-- All issuers that the factories have for a build, in the order of the factories. -/
def offered (resolver : Resolver) (build : Build) : List Issuer :=
  (resolver.factories.map fun factory => factory.forContext build).flatten

variable {resolver : Resolver} {uri path : String} {document : Document} {issuer other : Issuer}
  {credential : Credential} {build : Build}

theorem answered_iff :
    resolver.Answered uri issuer ↔
      resolver.factories.findSome? (fun factory => factory.forUri uri) = some issuer :=
  findSome?_eq_some_iff_firstWith.symm

theorem Answered.unique
    (h : resolver.Answered uri issuer)
    (hother : resolver.Answered uri other) :
    issuer = other :=
  Option.some.inj ((answered_iff.mp h).symm.trans (answered_iff.mp hother))

theorem forPath_eq_some_iff_answered :
    resolver.forPath path document = some issuer ↔
      path = issuer.uri ++ document.suffix ∧ resolver.Answered issuer.uri issuer ∧
        (document = .jwks → ∃ credential ∈ issuer.credentials, credential.issuer = none) := by
  rw [forPath_eq_some_iff, ← answered_iff, Issuer.defaultCredentials_ne_nil_iff]

/-- An issuer elsewhere closes the address that it was given for. -/
theorem Answered.forPath_eq_none
    (h : resolver.Answered uri issuer)
    (huri : issuer.uri ≠ uri)
    (document : Document) :
    resolver.forPath (uri ++ document.suffix) document = none := by
  rw [Option.eq_none_iff_forall_ne_some]
  intro found hfound
  obtain ⟨haddress, hanswered, -⟩ := forPath_eq_some_iff_answered.mp hfound
  have hsame : uri = found.uri := (address_inj haddress).1
  rw [← hsame] at hanswered
  exact huri (h.unique hanswered ▸ hsame.symm)

theorem resolve_eq_none_of_answered
    (h : resolver.Answered uri issuer)
    (huri : issuer.uri ≠ uri)
    (document : Document) :
    resolver.resolve (uri ++ document.suffix) = none := by
  have hnone : ∀ another, resolver.forPath (uri ++ document.suffix) another = none := by
    intro another
    rcases eq_or_ne another document with rfl | hne
    · exact h.forPath_eq_none huri another
    · exact forPath_eq_none_of_ne hne
  unfold resolve
  rw [hnone .openid, hnone .jwks]
  rfl

theorem forCredential_eq_find?
    (resolver : Resolver) (credential : Credential) (build : Build) :
    resolver.forCredential credential (some build)
      = match (resolver.offered build).find? fun issuer => issuer.contains credential.id with
        | none => .error ⟨credential.id, build.identifier⟩
        | some issuer => .ok issuer := by
  have hoffered : (resolver.factories.flatMap fun factory => factory.forContext build)
      = resolver.offered build := List.flatMap_def
  cases hfound : (resolver.offered build).find? fun issuer => issuer.contains credential.id with
  | none => simp only [forCredential, hoffered, hfound]
  | some issuer => simp only [forCredential, hoffered, hfound]

theorem forCredential_eq_ok_iff :
    resolver.forCredential credential (some build) = .ok issuer ↔
      FirstWith (Issuer.Holds · credential.id) (resolver.offered build) issuer := by
  rw [forCredential_eq_find?, ← find?_eq_some_iff_firstWith fun _ => Issuer.contains_iff_holds]
  cases (resolver.offered build).find? fun issuer => issuer.contains credential.id <;> simp

theorem forCredential_eq_error_iff
    {fault : IssuerNotFound} :
    resolver.forCredential credential (some build) = .error fault ↔
      fault = ⟨credential.id, build.identifier⟩ ∧
        ∀ issuer ∈ resolver.offered build, ¬ issuer.Holds credential.id := by
  have hnone : (resolver.offered build).find? (fun issuer => issuer.contains credential.id) = none
      ↔ ∀ issuer ∈ resolver.offered build, ¬ issuer.Holds credential.id := by
    simp only [List.find?_eq_none, Issuer.contains_iff_holds]
  rw [forCredential_eq_find?, ← hnone]
  cases (resolver.offered build).find? fun issuer => issuer.contains credential.id with
  | none => simp [eq_comm]
  | some issuer => simp

end Resolver

/-- A resolver takes the first answer it gets, and serves it only where it belongs. -/
structure Resolver.TrustsNoFactory (resolver : Resolver) : Prop where
  /-- The issuer that is found at a path is at that very path, and it is the first answer. -/
  placed : ∀ path document issuer, resolver.forPath path document = some issuer ↔
    path = issuer.uri ++ document.suffix ∧ resolver.Answered issuer.uri issuer ∧
      (document = .jwks → ∃ credential ∈ issuer.credentials, credential.issuer = none)
  /-- A first answer that belongs elsewhere is the last word on a URI. -/
  misplaced : ∀ uri issuer, resolver.Answered uri issuer → issuer.uri ≠ uri → ∀ document,
    resolver.forPath (uri ++ document.suffix) document = none ∧
      resolver.serve (uri ++ document.suffix) = .ok none
  succeeds : ∀ path, ∃ answer, resolver.serve path = .ok answer
  discovery : ∀ path document, resolver.serve path = .ok (some (.discovery document)) ↔
    ∃ issuer, resolver.forPath path .openid = some issuer ∧ document = .ofIssuer issuer.url
  /-- The keys that are served at a path are those of the issuer that is found there. -/
  keys : ∀ path set, resolver.serve path = .ok (some (.jwks set)) ↔
    ∃ issuer, resolver.forPath path .jwks = some issuer ∧
      set.keys = (issuer.credentials.filter fun credential => credential.issuer.isNone).map
        Credential.jwk
  nonempty : ∀ path set, resolver.serve path = .ok (some (.jwks set)) → set.keys ≠ []
  /-- For a build, the first issuer that holds the credential is found. -/
  held : ∀ credential build issuer, resolver.forCredential credential (some build) = .ok issuer ↔
    FirstWith (Issuer.Holds · credential.id) (resolver.offered build) issuer
  unheld : ∀ credential build fault,
    resolver.forCredential credential (some build) = .error fault ↔
      fault = ⟨credential.id, build.identifier⟩ ∧
        ∀ issuer ∈ resolver.offered build, ¬ issuer.Holds credential.id

/-- Whatever its root and its factories are, a resolver vouches for what it finds. -/
theorem Resolver.trusts_no_factory
    (resolver : Resolver) :
    resolver.TrustsNoFactory := by
  have hkeys : ∀ issuer, (JwkSet.ofIssuer issuer).keys
      = (issuer.credentials.filter fun credential => credential.issuer.isNone).map
          Credential.jwk := JwkSet.keys_ofIssuer
  constructor
  case placed =>
    intro path document issuer
    exact forPath_eq_some_iff_answered
  case misplaced =>
    intro uri issuer hanswered huri document
    exact ⟨hanswered.forPath_eq_none huri document,
      serve_eq_ok_iff.mpr (resolve_eq_none_of_answered hanswered huri document)⟩
  case succeeds =>
    intro path
    exact ⟨_, resolver.serve_eq path⟩
  case discovery =>
    intro path document
    rw [serve_eq_ok_iff, resolve_eq_discovery_iff]
  case keys =>
    intro path set
    rw [serve_eq_ok_iff, resolve_eq_jwks_iff]
    refine exists_congr fun issuer => and_congr_right fun _ => ?_
    rw [← hkeys]
    cases set
    simp [JwkSet.ofIssuer]
  case nonempty =>
    intro path set hserve
    obtain ⟨issuer, hissuer, rfl⟩ := resolve_eq_jwks_iff.mp (serve_eq_ok_iff.mp hserve)
    obtain ⟨-, -, hdefaults⟩ := forPath_eq_some_iff.mp hissuer
    rw [JwkSet.keys_ofIssuer]
    exact fun hempty => hdefaults rfl (List.map_eq_nil_iff.mp hempty)
  case held =>
    intro credential build issuer
    exact forCredential_eq_ok_iff
  case unheld =>
    intro credential build fault
    exact forCredential_eq_error_iff

/-- A factory that answers for the URI of another hides the factories behind it. -/
example :
    let factory (uris : List String) (issuer : Issuer) : IssuerFactory :=
      ⟨fun _ => [], fun _ => none, fun uri => if uris.contains uri then some issuer else none⟩
    let resolver : Resolver :=
      ⟨⟨"", "https://ci", []⟩, [factory ["/a", "/b"] ⟨"/a", "https://ci/a", []⟩,
        factory ["/b", "/c"] ⟨"/b", "https://ci/b", []⟩]⟩
    (resolver.forPath "/a/.well-known/openid-configuration" .openid).isSome = true ∧
      (resolver.forPath "/b/.well-known/openid-configuration" .openid).isSome = false := by
  decide

end WorkloadIdentity
