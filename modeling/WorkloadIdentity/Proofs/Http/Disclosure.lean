import WorkloadIdentity.Http.Service
import WorkloadIdentity.Proofs.Token.Publication

/-!
# Answers show public keys only

What the service answers depends on the URIs of its issuers and, for each credential, on its id,
the issuer it names, its algorithm and its public key.  Two stores that agree in these, whatever
their private keys, sealed records, descriptions and audiences, cannot be told apart by requests.

The relations below follow the data from credentials to resolvers; each function of the service
then has one lemma that says that it cannot tell related values apart.

* `Resolver.Alike.resolve_eq`, `Resolver.Alike.checkIssuer_eq`,
  `Resolver.Alike.credentialJwks?_eq`: the three ways from a resolver to an answer.
* `Http.respond_eq_of_resembles`: two stores that look the same answer alike.
-/

namespace WorkloadIdentity

section Lists

variable {α β : Type} {relation : α → β → Prop} {items : List α} {values : List β}

/-- A search that cannot tell related items apart finds related items. -/
theorem find?_rel
    {p : α → Bool} {q : β → Bool}
    (hsame : ∀ item value, relation item value → p item = q value)
    (h : List.Forall₂ relation items values) :
    Option.Rel relation (items.find? p) (values.find? q) := by
  induction h with
  | nil => exact .none
  | @cons item value _ _ hitem _ ih =>
      have hp := hsame item value hitem
      cases hq : q value with
      | true =>
          rw [List.find?_cons_of_pos (hp.trans hq), List.find?_cons_of_pos hq]
          exact .some hitem
      | false =>
          rw [List.find?_cons_of_neg (by simp [hp, hq]), List.find?_cons_of_neg (by simp [hq])]
          exact ih

theorem bind_rel
    {γ δ : Type} {other : γ → δ → Prop} {item : Option α} {value : Option β}
    {next : α → Option γ} {following : β → Option δ}
    (h : Option.Rel relation item value)
    (hnext : ∀ item value, relation item value → Option.Rel other (next item) (following value)) :
    Option.Rel other (item.bind next) (value.bind following) := by
  cases h with
  | none => exact .none
  | some hsame => exact hnext _ _ hsame

end Lists

/-- All that is published of two credentials is the same. -/
structure Credential.Resembles (first second : Credential) : Prop where
  id_eq : first.id = second.id
  issuer_eq : first.issuer = second.issuer
  algorithm_eq : first.algorithm = second.algorithm
  publicKey_eq : first.pair.publicKey = second.pair.publicKey

theorem Credential.Resembles.jwk_eq
    {first second : Credential}
    (h : first.Resembles second) :
    first.jwk = second.jwk := by
  have halgorithm : first.pair.algorithm = second.pair.algorithm := h.algorithm_eq
  simp only [jwk, Jwk.ofPair, KeyPair.components, h.id_eq, h.publicKey_eq, halgorithm]

/-- Two issuers are at the same URI, and their credentials agree place by place. -/
structure Issuer.Resembles (first second : Issuer) : Prop where
  uri_eq : first.uri = second.uri
  credentials : List.Forall₂ Credential.Resembles first.credentials second.credentials

/-- Two issuers that also have the same URL. -/
structure Issuer.Alike (first second : Issuer) : Prop extends first.Resembles second where
  url_eq : first.url = second.url

namespace Issuer

variable {first second : Issuer}

theorem Resembles.defaultCredentials
    (h : first.Resembles second) :
    List.Forall₂ Credential.Resembles first.defaultCredentials second.defaultCredentials := by
  refine List.rel_filter ?_ h.credentials
  intro credential other hsame
  simp only [hsame.issuer_eq]

theorem Resembles.jwkSet_eq
    (h : first.Resembles second) :
    JwkSet.ofIssuer first = JwkSet.ofIssuer second := by
  have hkeys : second.defaultCredentials.map Credential.jwk
      = first.defaultCredentials.map Credential.jwk :=
    map_eq_of_forall₂ (fun _ _ hsame => hsame.jwk_eq.symm) h.defaultCredentials
  rw [← JwkSet.keys_ofIssuer, ← JwkSet.keys_ofIssuer] at hkeys
  exact congrArg JwkSet.mk hkeys.symm

theorem Resembles.isEmpty_eq
    (h : first.Resembles second) :
    first.defaultCredentials.isEmpty = second.defaultCredentials.isEmpty := by
  have hlength := h.defaultCredentials.length_eq
  rw [Bool.eq_iff_iff, List.isEmpty_iff_length_eq_zero, List.isEmpty_iff_length_eq_zero, hlength]

theorem Resembles.find?
    (h : first.Resembles second)
    (id name : String) :
    Option.Rel Credential.Resembles (first.find? id name) (second.find? id name) := by
  refine find?_rel ?_ h.credentials
  intro credential other hsame
  rw [hsame.id_eq, hsame.issuer_eq]

end Issuer

/-- Two resolvers find issuers that look the same, for administrators and for addresses.  What
builds are offered does not show in answers. -/
structure Resolver.Alike (first second : Resolver) : Prop where
  forConfig : ∀ scope, Option.Rel Issuer.Alike (first.forConfig scope) (second.forConfig scope)
  forUri : ∀ uri, Option.Rel Issuer.Alike
    (first.factories.findSome? fun factory => factory.forUri uri)
    (second.factories.findSome? fun factory => factory.forUri uri)

namespace Resolver

variable {first second : Resolver}

theorem Alike.forPath
    (h : first.Alike second)
    (path : String) (document : Document) :
    Option.Rel Issuer.Alike (first.forPath path document) (second.forPath path document) := by
  simp only [Resolver.forPath, Option.bind_eq_bind]
  cases dropSuffix? document.suffix path with
  | none => exact .none
  | some uri =>
      rw [Option.bind_some, Option.bind_some]
      refine bind_rel (h.forUri uri) ?_
      intro issuer other hsame
      simp only [hsame.uri_eq, hsame.toResembles.isEmpty_eq]
      split
      · exact .none
      · split
        · exact .none
        · exact .some hsame

theorem Alike.resolve_eq
    (h : first.Alike second)
    (path : String) :
    first.resolve path = second.resolve path := by
  have hopenid := h.forPath path .openid
  have hjwks := h.forPath path .jwks
  unfold resolve
  generalize first.forPath path .openid = issuer, second.forPath path .openid = other at hopenid
  generalize first.forPath path .jwks = served, second.forPath path .jwks = another at hjwks
  cases hopenid with
  | some hsame => simp only [hsame.url_eq]
  | none =>
      cases hjwks with
      | none => rfl
      | some hsame => simp only [Option.map_some, hsame.toResembles.jwkSet_eq]

theorem Alike.checkIssuer_eq
    (h : first.Alike second)
    (scope id : String) (name : Option String) :
    first.checkIssuer scope id name = second.checkIssuer scope id name := by
  have hfound := h.forConfig scope
  unfold checkIssuer
  generalize first.forConfig scope = issuer, second.forConfig scope = other at hfound
  cases hfound with
  | none => rfl
  | @some issuer other hsame =>
      have hsaved := hsame.toResembles.find? id (name.getD "")
      simp only [hsame.url_eq]
      generalize issuer.find? id (name.getD "") = saved,
        other.find? id (name.getD "") = kept at hsaved
      cases hsaved <;> rfl

theorem Alike.credentialJwks?_eq
    (h : first.Alike second)
    (scope id name : String) :
    first.credentialJwks? scope id name = second.credentialJwks? scope id name := by
  have hfound := h.forConfig scope
  unfold credentialJwks?
  generalize first.forConfig scope = issuer, second.forConfig scope = other at hfound
  cases hfound with
  | none => rfl
  | @some issuer other hsame =>
      have hsaved := hsame.toResembles.find? id name
      simp only [Option.bind_eq_bind, Option.bind_some]
      generalize issuer.find? id name = saved, other.find? id name = kept at hsaved
      cases hsaved with
      | none => rfl
      | some hcredential => simp only [Option.bind_some, Credential.jwkSet, hcredential.jwk_eq]

end Resolver

/-- The issuers of two stores agree place by place. -/
def Store.Resembles (first second : Store) : Prop :=
  List.Forall₂ Issuer.Resembles first.issuers second.issuers

namespace Store

variable {first second : Store} {master other : MasterKey} {provider : Provider}

/-- Under the same provider, issuers at the same URIs have the same URLs. -/
theorem Resembles.alike
    (h : first.Resembles second)
    (hfirst : first.WellFormed master provider)
    (hsecond : second.WellFormed other provider) :
    List.Forall₂ Issuer.Alike first.issuers second.issuers := by
  refine List.forall₂_iff_zip.mpr ⟨h.length_eq, ?_⟩
  intro issuer another hplace
  have hsame := (List.forall₂_iff_zip.mp h).2 hplace
  obtain ⟨hissuer, hanother⟩ := List.of_mem_zip hplace
  refine ⟨hsame, ?_⟩
  rw [(hfirst.issuers issuer hissuer).url_eq, (hsecond.issuers another hanother).url_eq,
    hsame.uri_eq]

theorem Resembles.resolver_alike
    (h : first.Resembles second)
    (hfirst : first.WellFormed master provider)
    (hsecond : second.WellFormed other provider) :
    first.resolver.Alike second.resolver := by
  have hfind (uri : String) :
      Option.Rel Issuer.Alike (Scope.find? first.issuers uri) (Scope.find? second.issuers uri) := by
    refine find?_rel ?_ (h.alike hfirst hsecond)
    intro issuer another hsame
    rw [hsame.uri_eq]
  constructor
  · intro scope
    rw [resolver_forConfig, resolver_forConfig]
    exact hfind scope
  · intro uri
    rw [resolver_forUri, resolver_forUri]
    exact hfind uri

end Store

namespace Http

variable {first second : AppState}

theorem metadataPage_eq
    (h : first.resolver.Alike second.resolver)
    (path : String) :
    metadataPage first path = metadataPage second path := by
  simp only [metadataPage, h.resolve_eq]

theorem adminPage_eq
    (h : first.resolver.Alike second.resolver)
    (request : Request) (page : AdminPage) :
    adminPage first request page = adminPage second request page := by
  cases page with
  | checkIssuer => simp only [adminPage, h.checkIssuer_eq]
  | discovery => rfl
  | jwks => simp only [adminPage, h.credentialJwks?_eq]
  | algorithms => rfl

theorem routeResponse_eq
    (h : first.resolver.Alike second.resolver)
    (hkey : first.adminKey = second.adminKey)
    (request : Request) (route : Route) :
    routeResponse first request route = routeResponse second request route := by
  have hrefusal : route.refusal? first request = route.refusal? second request := by
    cases route with
    | metadata path => rfl
    | health => rfl
    | admin page => simp only [Route.refusal?, refusal?, hkey]
  have hpage : page first request route = page second request route := by
    cases route with
    | metadata path => exact metadataPage_eq h path
    | health => rfl
    | admin which => exact adminPage_eq h request which
  simp only [routeResponse, hrefusal, hpage]

/-- Services with the same key and resolvers that look the same answer every request alike. -/
theorem respond_eq_of_alike
    (h : first.resolver.Alike second.resolver)
    (hkey : first.adminKey = second.adminKey)
    (request : Request) :
    respond first request = respond second request := by
  simp only [respond, routeResponse_eq h hkey]

/-- Two restored stores that agree, place by place, in the URIs of their issuers and in the id, the
issuer, the algorithm and the public key of each credential answer every request alike.  Private
keys, sealed records, descriptions and audiences do not show, nor does the master key. -/
theorem respond_eq_of_resembles
    {firstMaster secondMaster : MasterKey} {provider : Provider}
    {firstFile firstAfter secondFile secondAfter : StoreFile} {first second : Store}
    {firstCount secondCount : Nat}
    {firstEntropy firstRest secondEntropy secondRest : Entropy}
    (hfirst : (Store.restore firstMaster provider firstFile).run firstEntropy
      = (⟨firstAfter, .ok (first, firstCount)⟩, firstRest))
    (hsecond : (Store.restore secondMaster provider secondFile).run secondEntropy
      = (⟨secondAfter, .ok (second, secondCount)⟩, secondRest))
    (h : first.Resembles second)
    (setting : Option String) (request : Request) :
    respond (.ofKey first.resolver setting) request
      = respond (.ofKey second.resolver setting) request := by
  have halike := h.resolver_alike (Store.restore_wellFormed hfirst)
    (Store.restore_wellFormed hsecond)
  exact @respond_eq_of_alike (.ofKey first.resolver setting) (.ofKey second.resolver setting)
    halike rfl request

end Http

/-- The key pair with the least modulus, its factors the other way round and with another private
exponent. -/
def KeyPair.leastReversed : KeyPair where
  algorithm := .rs256
  material := .rsa ⟨15, 3, 7, 5, 3⟩ (by decide) (by decide)
  fits := rfl

theorem KeyPair.privateBytes_leastReversed :
    ∃ bytes, leastReversed.privateBytes = .ok bytes := by
  have hsome : leastReversed.material.encodePrivate?.isSome := by decide +kernel
  obtain ⟨bytes, hbytes⟩ := Option.isSome_iff_exists.mp hsome
  exact ⟨bytes, privateBytes_eq_ok_iff.mpr hbytes⟩

namespace Http

/-- The root's keys are published alike for two private keys, one of them with texts beside it. -/
theorem respond_leastReversed :
    ∃ file other first second,
      (∀ entropy, (Store.restore .uniform Store.sampleProvider file).run entropy
        = (⟨file, .ok (first, 0)⟩, entropy)) ∧
      (∀ entropy, (Store.restore .uniform Store.sampleProvider other).run entropy
        = (⟨other, .ok (second, 0)⟩, entropy)) ∧
      ((first.credential? "" "deploy").map Credential.pair = some .least ∧
        (second.credential? "" "deploy").map Credential.pair = some .leastReversed) ∧
      respond (.ofKey first.resolver none) ⟨"GET", "/oidc/jwks", none, []⟩
        = respond (.ofKey second.resolver none) ⟨"GET", "/oidc/jwks", none, []⟩ := by
  obtain ⟨bytes, hbytes⟩ := KeyPair.privateBytes_least
  obtain ⟨otherBytes, hother⟩ := KeyPair.privateBytes_leastReversed
  obtain ⟨keys, hkept⟩ := Store.exists_plainCredential hbytes .uniform
  obtain ⟨sealed, hsealed⟩ := @Credential.exists_wellKept _ _ (some "Deployments") none
    (some "sts.example.org") hother (by decide) (by decide) (by decide) .uniform "deploy"
  have hroot : Scope.isValid "" = true := by decide
  have hfirst := Store.restore_run_single hroot hkept Store.sampleProvider
  have hsecond := Store.restore_run_single hroot hsealed Store.sampleProvider
  refine ⟨_, _, _, _, hfirst, hsecond, ⟨rfl, rfl⟩, ?_⟩
  have hresembles : Issuer.Resembles
      (.ofProvider Store.sampleProvider "" [Store.plainCredential .least keys])
      (.ofProvider Store.sampleProvider "" [⟨"deploy", some "Deployments", none,
        some "sts.example.org", .leastReversed, sealed⟩]) :=
    ⟨rfl, .cons ⟨rfl, rfl, rfl, rfl⟩ .nil⟩
  exact respond_eq_of_resembles (hfirst ⟨fun _ => 0, 0⟩) (hsecond ⟨fun _ => 0, 0⟩)
    (.cons hresembles .nil) none _

end Http
end WorkloadIdentity
