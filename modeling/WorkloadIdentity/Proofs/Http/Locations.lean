import WorkloadIdentity.Http.Service
import WorkloadIdentity.Proofs.Metadata.Dispatch

/-!
# Which scopes are served at their own URLs

The path of a request for an issuer's documents loses all slashes that it begins with, and gets
one back, before the issuer is looked up.  A scope whose URI begins with one slash is found in this
way, and so is the root.  A URI that begins with two is valid too, but no request gets to it: the
request is answered for the URI with one slash, which is that of another issuer or of none.

* `Http.respond_document`: what is answered for a document of an issuer.
* `Http.scope_served_iff`: the scopes that are served at their own URLs.
-/

namespace WorkloadIdentity

namespace Percent

/-- Only the percent sign is encoded with its byte. -/
theorem not_mem_utf8EncodeChar
    {c : Char}
    (h : c ≠ '%') :
    0x25 ∉ String.utf8EncodeChar c := by
  rcases Bytes.utf8EncodeChar_cases c with ⟨hlt, hbytes⟩ | ⟨-, hbytes⟩
  · rw [hbytes, List.mem_singleton, ← UInt8.toNat_inj,
      UInt8.toNat_ofNat_of_lt' (show c.toNat < 256 by omega)]
    intro hvalue
    exact h (Char.toNat_inj.mp hvalue.symm)
  · intro hmem
    exact absurd (hbytes _ hmem) (by decide)

theorem decode_ofText
    {text : String}
    (h : '%' ∉ text.toList) :
    decode (Bytes.ofText text) = Bytes.ofText text := by
  apply decode_of_noPercent
  rw [← String.ofList_toList (s := text), Bytes.ofText_ofList]
  rintro byte hbyte rfl
  obtain ⟨c, hc, hencoded⟩ := List.mem_flatMap.mp hbyte
  refine not_mem_utf8EncodeChar ?_ hencoded
  rintro rfl
  exact h hc

end Percent

/-- A text is made of the marks that it begins with and a rest that begins with another
character. -/
theorem exists_replicate_append_dropWhile
    (mark : Char) (chars : List Char) :
    (∃ count, chars = List.replicate count mark ++ chars.dropWhile (· = mark)) ∧
      (chars.dropWhile (· = mark)).head? ≠ some mark := by
  induction chars with
  | nil => exact ⟨⟨0, rfl⟩, by simp⟩
  | cons c rest ih =>
      by_cases hc : c = mark
      · subst hc
        obtain ⟨⟨count, hcount⟩, hhead⟩ := ih
        rw [List.dropWhile_cons_of_pos (by simp)]
        refine ⟨⟨count + 1, ?_⟩, hhead⟩
        rw [List.replicate_succ, List.cons_append, ← hcount]
      · rw [List.dropWhile_cons_of_neg (by simpa using hc)]
        exact ⟨⟨0, rfl⟩, by simpa using hc⟩

namespace Scope

/-- The character is a slash or unreserved, so that it stands for itself in a path. -/
def IsPathChar (c : Char) : Prop :=
  c = '/' ∨ c.isAlphanum = true ∨ c ∈ ['-', '.', '_', '~']

instance (c : Char) : Decidable (IsPathChar c) := by
  unfold IsPathChar
  infer_instance

/-- The URI with one of the slashes that it begins with. -/
def reached (uri : String) : String :=
  if uri = "" then "" else "/" ++ String.ofList (uri.toList.dropWhile (· = '/'))

variable {uri : String}

theorem isPathChar_of_all
    (h : uri.toList.all (fun c => IsPathChar c) = true) :
    ∀ c ∈ uri.toList, IsPathChar c := by
  intro c hc
  exact of_decide_eq_true (List.all_eq_true.mp h c hc)

theorem not_percent_of_isPathChar
    (h : ∀ c ∈ uri.toList, IsPathChar c) :
    '%' ∉ uri.toList := by
  intro hmem
  have hpercent := h _ hmem
  revert hpercent
  unfold IsPathChar
  decide

/-- Of the slashes that a valid URI begins with, one is left. -/
theorem ValidUri.reached_cases
    (h : ValidUri uri) :
    uri = "" ∨ ∃ slashes c rest, uri.toList = '/' :: (List.replicate slashes '/' ++ c :: rest) ∧
      c ≠ '/' ∧ (reached uri).toList = '/' :: c :: rest := by
  rcases h with rfl | ⟨⟨path, rfl⟩, hlast⟩
  · exact Or.inl rfl
  · right
    have hreached : (reached ("/" ++ path)).toList = '/' :: path.toList.dropWhile (· = '/') := by
      simp [reached]
    obtain ⟨⟨slashes, hslashes⟩, hhead⟩ := exists_replicate_append_dropWhile '/' path.toList
    cases hrest : path.toList.dropWhile (· = '/') with
    | nil =>
        refine absurd ?_ (hlast (String.ofList (List.replicate slashes '/')))
        rw [hrest, List.append_nil] at hslashes
        simp only [← String.toList_inj, String.toList_append, hslashes, String.toList_ofList]
        show List.replicate (slashes + 1) '/' = List.replicate slashes '/' ++ ['/']
        exact List.replicate_succ'
    | cons c rest =>
        rw [hrest] at hslashes hhead hreached
        refine ⟨slashes, c, rest, ?_, by simpa using hhead, hreached⟩
        rw [String.toList_append, hslashes]
        rfl

/-- Exactly the URIs that begin with two slashes are not reached. -/
theorem ValidUri.reached_eq_self_iff
    (h : ValidUri uri) :
    reached uri = uri ↔ ¬ ∃ rest, uri = "//" ++ rest := by
  have hbegins : (∃ rest, uri = "//" ++ rest) ↔ ∃ rest, uri.toList = '/' :: '/' :: rest := by
    constructor
    · rintro ⟨rest, rfl⟩
      exact ⟨rest.toList, String.toList_append⟩
    · rintro ⟨rest, hrest⟩
      exact ⟨String.ofList rest, by simp [← String.toList_inj, hrest]⟩
  rw [hbegins]
  rcases h.reached_cases with rfl | ⟨slashes, c, rest, huri, hc, hreached⟩
  · refine ⟨?_, fun _ => rfl⟩
    rintro - ⟨rest, hrest⟩
    cases hrest
  · rw [← String.toList_inj, hreached, huri]
    cases slashes with
    | zero =>
        refine ⟨?_, fun _ => rfl⟩
        rintro - ⟨path, hpath⟩
        cases hpath
        exact hc rfl
    | succ slashes =>
        constructor
        · intro hsame
          exact absurd (List.cons.inj (List.cons.inj hsame).2).1 hc
        · intro hnot
          exact absurd ⟨_, rfl⟩ hnot

/-- What is reached is a valid URI, and from there it is reached again. -/
theorem ValidUri.reached_reached
    (h : ValidUri uri) :
    ValidUri (reached uri) ∧ reached (reached uri) = reached uri := by
  have hvalid : ValidUri (reached uri) := by
    rcases h.reached_cases with rfl | ⟨slashes, c, rest, huri, -, hreached⟩
    · exact h
    · have hsame : ('/' :: (List.replicate slashes '/' ++ c :: rest)).getLast?
          = ('/' :: c :: rest).getLast? := by
        rw [← List.cons_append, List.getLast?_append]
        simp [List.getLast?_cons]
      have hlast := isValid_iff.mpr h
      rw [← isValid_iff]
      simp only [isValid, hreached, huri, hsame, List.head?_cons, Bool.or_eq_true,
        beq_iff_eq] at hlast ⊢
      rcases hlast with rfl | hlast
      · cases huri
      · exact Or.inr hlast
  refine ⟨hvalid, hvalid.reached_eq_self_iff.mpr ?_⟩
  rintro ⟨path, hpath⟩
  rcases h.reached_cases with rfl | ⟨slashes, c, rest, -, hc, hreached⟩
  · have hchars := congrArg String.toList hpath
    simp [reached] at hchars
  · rw [hpath, String.toList_append] at hreached
    exact hc (List.cons.inj (List.cons.inj hreached).2).1.symm

theorem isPathChar_of_reached
    (h : ∀ c ∈ uri.toList, IsPathChar c) :
    ∀ c ∈ (reached uri).toList, IsPathChar c := by
  unfold reached
  split
  · simp
  · intro c hc
    rw [String.toList_append] at hc
    rcases List.mem_append.mp hc with hslash | hrest
    · exact Or.inl (List.mem_singleton.mp hslash)
    · rw [String.toList_ofList] at hrest
      exact h c ((List.dropWhile_suffix _).subset hrest)

/-- The address of a document of a scope goes on after a slash. -/
theorem ValidUri.exists_below
    (h : ValidUri uri)
    (document : Document) :
    ∃ below, below ≠ "" ∧ uri ++ document.suffix = "/" ++ below := by
  rcases h with rfl | ⟨⟨rest, rfl⟩, -⟩
  · cases document with
    | openid => exact ⟨".well-known/openid-configuration", by decide, by decide⟩
    | jwks => exact ⟨"jwks", by decide, by decide⟩
  · refine ⟨rest ++ document.suffix, ?_, String.append_assoc⟩
    cases document <;> simp [Document.suffix]

/-- Without its first slashes and with one again, the address of a document is that of the URI
that is reached. -/
theorem ValidUri.reached_append
    (h : ValidUri uri)
    (document : Document) :
    "/" ++ String.ofList ((uri ++ document.suffix).toList.dropWhile (· = '/'))
      = reached uri ++ document.suffix := by
  rcases h.reached_cases with rfl | ⟨slashes, c, rest, huri, hc, hreached⟩
  · cases document <;> decide
  · have hdrop : (uri ++ document.suffix).toList.dropWhile (· = '/')
        = c :: rest ++ document.suffix.toList := by
      rw [String.toList_append, huri, ← List.cons_append, List.append_assoc,
        List.dropWhile_append_of_pos (by simp), List.cons_append,
        List.dropWhile_cons_of_neg (by simpa using hc)]
    rw [hdrop]
    simp [← String.toList_inj, hreached]

end Scope

theorem Discovery.plain_toJson
    (document : Discovery) :
    document.toJson.Plain := by
  have htexts (texts : List String) : (textsToJson texts).Plain := by
    refine .array ?_
    intro item hitem
    obtain ⟨text, -, rfl⟩ := List.mem_map.mp hitem
    exact .ofText text
  unfold toJson
  refine Json.plain_object ?_
  repeat' apply Json.forall_append
  all_goals exact Json.plain_member (by first | exact .ofText _ | exact htexts _)

/-- Documents of different issuers have different texts. -/
theorem Discovery.issuer_eq_of_compact
    {document other : Discovery}
    (h : document.toJson.compact = other.toJson.compact) :
    document.issuer = other.issuer := by
  have hjson := congrArg Json.parse? h
  rw [Json.parse?_compact document.plain_toJson, Json.parse?_compact other.plain_toJson] at hjson
  simp only [toJson, Json.member, Json.ofText, Option.some.injEq, Json.object.injEq,
    List.cons_append, List.cons.injEq, Prod.mk.injEq, Json.text.injEq] at hjson
  exact hjson.1.2

namespace Http

variable {state : AppState} {request : Request} {uri : String}

/-- The answer with the document at a path. -/
def answer (resolver : Resolver) (path : String) : Response :=
  match resolver.resolve path with
  | none => .notFound ("No issuer metadata at " ++ path)
  | some document => .json 200 document.toJson

theorem answer_of_none
    {resolver : Resolver} {path : String}
    (h : resolver.resolve path = none) :
    answer resolver path = .notFound ("No issuer metadata at " ++ path) := by
  unfold answer
  split
  · rfl
  · next hsome => cases h.symm.trans hsome

theorem answer_of_some
    {resolver : Resolver} {path : String} {document : Metadata}
    (h : resolver.resolve path = some document) :
    answer resolver path = .json 200 document.toJson := by
  unfold answer
  split
  · next hnone => cases h.symm.trans hnone
  · next hsome =>
    cases h.symm.trans hsome
    rfl

/-- A path without escapes is that of the document, apart from the slashes that it begins with. -/
theorem metadataPage_of_noPercent
    {path : String}
    (h : '%' ∉ path.toList) :
    metadataPage state path
      = answer state.resolver ("/" ++ String.ofList (path.toList.dropWhile (· = '/'))) := by
  rw [metadataPage, Percent.decode_ofText h, Bytes.text?_ofText]
  rfl

theorem ofPath?_below
    {below : String}
    (h : below ≠ "") :
    Route.ofPath? (Provider.servedAt ++ ("/" ++ below)) = some (.metadata below) := by
  have hbelow : belowIssuers? (Provider.servedAt ++ ("/" ++ below)) = some below := by
    simp [belowIssuers?, Provider.servedAt, h]
  simp only [Route.ofPath?, hbelow]

/-- A request for a document of a scope is answered with the document at the address of the URI
that is reached. -/
theorem respond_document
    {resolver : Resolver} {setting : Option String} {document : Document}
    (huri : Scope.ValidUri uri)
    (hchars : ∀ c ∈ uri.toList, Scope.IsPathChar c)
    (hmethod : request.method = "GET")
    (hpath : request.path = Provider.servedAt ++ uri ++ document.suffix) :
    respond (.ofKey resolver setting) request
      = (answer resolver (Scope.reached uri ++ document.suffix)
        ).withSecurity.withOrigin.withLength := by
  obtain ⟨below, hne, hbelow⟩ := huri.exists_below document
  have hroute : Route.ofPath? request.path = some (.metadata below) := by
    rw [hpath, String.append_assoc, hbelow, ofPath?_below hne]
  have hplain : '%' ∉ (uri ++ document.suffix).toList := by
    rw [String.toList_append, List.mem_append, not_or]
    exact ⟨Scope.not_percent_of_isPathChar hchars, by cases document <;> decide⟩
  have hbelowPlain : '%' ∉ below.toList := by
    intro hmem
    rw [hbelow, String.toList_append] at hplain
    exact hplain (List.mem_append_right _ hmem)
  have hreached := huri.reached_append document
  rw [hbelow, String.toList_append] at hreached
  have hpage : metadataPage (.ofKey resolver setting) below
      = answer resolver (Scope.reached uri ++ document.suffix) := by
    rw [metadataPage_of_noPercent hbelowPlain, ← hreached]
    rfl
  simp [respond, hroute, hmethod, routeResponse, Route.refusal?, page, hpage]

/-- Requests for a path are answered with a document. -/
def Serves (state : AppState) (path : String) (document : Json) : Prop :=
  ∀ request : Request, request.method = "GET" → request.path = path →
    respond state request = (Response.json 200 document).withSecurity.withOrigin.withLength

/-- A scope's documents are served at the paths of its own URL: the discovery document of the URL,
and the set of the scope's keys if it has default records. -/
structure ServesScope
    (master : MasterKey)
    (provider : Provider)
    (scope : ScopeRecord)
    (state : AppState) : Prop where
  discovery : Serves state (Provider.servedAt ++ scope.uri ++ Document.openid.suffix)
    (Discovery.ofIssuer (provider.issuerUrl scope.uri)).toJson
  jwks : scope.defaults ≠ [] → ∃ set, scope.Publishes master set ∧
    Serves state (Provider.servedAt ++ scope.uri ++ Document.jwks.suffix) set.toJson

/-- What is at the address of the URI that is reached is served at the path of the URI. -/
theorem serves_of_resolve
    {resolver : Resolver} {setting : Option String} {document : Document} {metadata : Metadata}
    {other : String}
    (huri : Scope.ValidUri uri)
    (hchars : ∀ c ∈ uri.toList, Scope.IsPathChar c)
    (hreached : Scope.reached uri = other)
    (h : resolver.resolve (other ++ document.suffix) = some metadata) :
    Serves (.ofKey resolver setting) (Provider.servedAt ++ uri ++ document.suffix)
      metadata.toJson := by
  intro request hmethod hpath
  rw [respond_document huri hchars hmethod hpath, hreached, answer_of_some h]

variable {master : MasterKey} {provider : Provider} {file : StoreFile} {issuers : List Issuer}
  {scope : ScopeRecord} {setting : Option String}

theorem servesScope_of_reached
    (hsound : file.Sound master)
    (hopens : file.Opens master provider issuers)
    (hscope : scope ∈ file.scopes)
    (hchars : ∀ c ∈ scope.uri.toList, Scope.IsPathChar c)
    (hreached : Scope.reached scope.uri = scope.uri) :
    ServesScope master provider scope
      (.ofKey (Store.ofIssuers provider issuers).resolver setting) := by
  have hvalid := (hsound.scopes scope hscope).valid
  constructor
  · have hresolve := (Store.resolve_eq_discovery_iff hsound.wellFormed hopens).mpr
      ⟨scope.uri, Or.inr ⟨scope, hscope, rfl⟩, rfl, rfl⟩
    have hserves := @serves_of_resolve _ _ setting _ _ _ hvalid hchars hreached hresolve
    rwa [Metadata.toJson] at hserves
  · intro hdefaults
    obtain ⟨set, hset⟩ := (Store.resolve_eq_jwks_iff hsound.wellFormed hopens).mpr
      ⟨scope.uri, ⟨scope, hscope, rfl, hdefaults⟩, rfl⟩
    have hserves := @serves_of_resolve _ _ setting _ _ _ hvalid hchars hreached hset
    rw [Metadata.toJson] at hserves
    exact ⟨set, Store.publishes_of_resolve hsound hopens hscope hset, hserves⟩

/-- A discovery document is served for the URI that is reached, if at all. -/
theorem reached_eq_of_serves
    (hsound : file.Sound master)
    (hopens : file.Opens master provider issuers)
    (hscope : scope ∈ file.scopes)
    (hchars : ∀ c ∈ scope.uri.toList, Scope.IsPathChar c)
    (h : Serves (.ofKey (Store.ofIssuers provider issuers).resolver setting)
      (Provider.servedAt ++ scope.uri ++ Document.openid.suffix)
      (Discovery.ofIssuer (provider.issuerUrl scope.uri)).toJson) :
    Scope.reached scope.uri = scope.uri := by
  have hvalid := (hsound.scopes scope hscope).valid
  have hanswer := h ⟨"GET", _, none, []⟩ rfl rfl
  rw [respond_document hvalid hchars rfl rfl] at hanswer
  cases hresolve : (Store.ofIssuers provider issuers).resolver.resolve
      (Scope.reached scope.uri ++ Document.openid.suffix) with
  | none =>
      rw [answer_of_none hresolve] at hanswer
      have hstatus : (404 : Nat) = 200 := congrArg Response.status hanswer
      cases hstatus
  | some metadata =>
      rw [answer_of_some hresolve] at hanswer
      cases metadata with
      | jwks set =>
          obtain ⟨uri, -, haddress⟩ :=
            (Store.resolve_eq_jwks_iff hsound.wellFormed hopens).mp ⟨set, hresolve⟩
          exact absurd haddress (address_openid_ne_jwks _ _)
      | discovery document =>
          obtain ⟨uri, -, haddress, rfl⟩ :=
            (Store.resolve_eq_discovery_iff hsound.wellFormed hopens).mp hresolve
          have hbody := congrArg Response.body hanswer
          have hissuer := Discovery.issuer_eq_of_compact hbody
          rw [(address_inj haddress).1]
          exact Provider.issuerUrl_inj.mp hissuer

/-- Of the scopes of a file that restores, written with slashes and unreserved characters, those
are served at their own URLs that do not begin with two slashes.  A request for a document of any
of them gets the answer for the URI with one slash, and if the file has no such document, nothing
is found. -/
theorem scope_served_iff
    {after : StoreFile} {store : Store} {count : Nat} {entropy rest : Entropy}
    (h : (Store.restore master provider file).run entropy = (⟨after, .ok (store, count)⟩, rest))
    (hscope : scope ∈ file.scopes)
    (hchars : ∀ c ∈ scope.uri.toList, Scope.IsPathChar c)
    (setting : Option String) :
    (ServesScope master provider scope (.ofKey store.resolver setting) ↔
        ¬ ∃ rest, scope.uri = "//" ++ rest) ∧
      ∀ (document : Document) (request : Request), request.method = "GET" →
        request.path = Provider.servedAt ++ scope.uri ++ document.suffix →
        respond (.ofKey store.resolver setting) request
            = respond (.ofKey store.resolver setting) { request with
                path := Provider.servedAt ++ Scope.reached scope.uri ++ document.suffix } ∧
          (¬ file.Offers (Scope.reached scope.uri) document →
            respond (.ofKey store.resolver setting) request
              = (Response.notFound ("No issuer metadata at "
                  ++ (Scope.reached scope.uri ++ document.suffix))
                ).withSecurity.withOrigin.withLength) := by
  have hsound := Store.sound_of_restore_run_ok h
  obtain ⟨issuers, hfile, hopens, rfl, -⟩ := Store.restore_run_ok h
  have hvalid := (hsound.scopes scope hscope).valid
  refine ⟨?_, ?_⟩
  · rw [← hvalid.reached_eq_self_iff]
    constructor
    · intro hserves
      exact reached_eq_of_serves hsound hopens hscope hchars hserves.discovery
    · exact servesScope_of_reached hsound hopens hscope hchars
  · intro document request hmethod hpath
    obtain ⟨hreached, hagain⟩ := hvalid.reached_reached
    rw [respond_document hvalid hchars hmethod hpath]
    refine ⟨?_, ?_⟩
    · have hanswer := @respond_document
        { request with path := Provider.servedAt ++ Scope.reached scope.uri ++ document.suffix }
        _ (Store.ofIssuers provider issuers).resolver setting document hreached
        (Scope.isPathChar_of_reached hchars) hmethod rfl
      rw [hanswer, hagain]
    · intro hnot
      have hnone := (Store.resolve_eq_none_iff hfile hopens).mpr
        (fun uri other hoffers haddress => by
          obtain ⟨rfl, rfl⟩ := address_inj haddress
          exact hnot hoffers)
      rw [answer_of_none hnone]

/-- The inner of two nested scopes is served at its own URL. -/
theorem nested_scope_served :
    ∃ outer inner store,
      (∀ entropy, (Store.restore .uniform Store.sampleProvider
          (Store.nestedFile outer inner)).run entropy
        = (⟨Store.nestedFile outer inner, .ok (store, 0)⟩, entropy)) ∧
      ServesScope .uniform Store.sampleProvider
        ⟨"/job", [⟨"deploy", none, none, none, .current inner⟩]⟩ (.ofKey store.resolver none) := by
  obtain ⟨outerBytes, houter⟩ := KeyPair.privateBytes_least
  obtain ⟨innerBytes, hinner⟩ := KeyPair.privateBytes_small
  obtain ⟨outer, inner, hrun⟩ :=
    Store.nested_restore_run houter hinner .uniform Store.sampleProvider
  have hchars : ∀ c ∈ "/job".toList, Scope.IsPathChar c := Scope.isPathChar_of_all (by decide)
  have hserved := scope_served_iff (hrun ⟨fun _ => 0, 0⟩)
    (List.mem_cons_of_mem _ List.mem_cons_self) hchars none
  refine ⟨outer, inner, _, hrun, hserved.1.mpr ?_⟩
  rintro ⟨rest, hrest⟩
  have hsame : "/job".toList = '/' :: '/' :: rest.toList :=
    (congrArg String.toList hrest).trans String.toList_append
  cases hsame

/-- Two scopes whose URIs differ in the slashes that they begin with. -/
def slashIssuers (first second : Credential) : List Issuer :=
  [.ofProvider Store.sampleProvider "//a" [first], .ofProvider Store.sampleProvider "/a" [second]]

/-- Of two scopes whose URIs differ in the slashes that they begin with, one is served at the URLs
of both, and the other is not served. -/
theorem slash_scope_not_served :
    ∃ first second : Credential,
      (∀ entropy, (Store.restore .uniform Store.sampleProvider
          (.ofIssuers (slashIssuers first second))).run entropy
        = (⟨.ofIssuers (slashIssuers first second),
          .ok (Store.ofIssuers Store.sampleProvider (slashIssuers first second), 0)⟩, entropy)) ∧
      Serves (.ofKey (Store.ofIssuers Store.sampleProvider
          (slashIssuers first second)).resolver none)
        "/oidc//a/.well-known/openid-configuration"
        (Discovery.ofIssuer "https://ci.example.org/oidc/a").toJson ∧
      Serves (.ofKey (Store.ofIssuers Store.sampleProvider
          (slashIssuers first second)).resolver none)
        "/oidc//a/jwks" (JwkSet.mk [second.jwk]).toJson ∧
      ¬ ServesScope .uniform Store.sampleProvider ⟨"//a", [first.toRecord]⟩
        (.ofKey (Store.ofIssuers Store.sampleProvider
          (slashIssuers first second)).resolver none) := by
  obtain ⟨bytes, hbytes⟩ := KeyPair.privateBytes_least
  obtain ⟨otherBytes, hother⟩ := KeyPair.privateBytes_small
  obtain ⟨keys, hfirst⟩ := Store.exists_plainCredential hbytes .uniform
  obtain ⟨otherKeys, hsecond⟩ := Store.exists_plainCredential hother .uniform
  generalize Store.plainCredential .least keys = first at hfirst
  generalize hkept : Store.plainCredential .small otherKeys = second at hsecond
  have hissuers : ∀ issuer ∈ slashIssuers first second,
      issuer.WellFormed .uniform Store.sampleProvider := by
    refine List.forall_mem_cons.mpr ⟨?_, List.forall_mem_singleton.mpr ?_⟩
    · exact Issuer.ofProvider_wellFormed (by decide) hfirst Store.sampleProvider
    · exact Issuer.ofProvider_wellFormed (by decide) hsecond Store.sampleProvider
  have huris : ((slashIssuers first second).map Issuer.uri).Nodup :=
    show (["//a", "/a"] : List String).Nodup by decide
  have hrun := Store.restore_run_ofIssuers huris hissuers
  have hsound := Store.sound_of_restore_run_ok (hrun ⟨fun _ => 0, 0⟩)
  have hopens := StoreFile.ofIssuers_opens hissuers
  have hchars : ∀ c ∈ "//a".toList, Scope.IsPathChar c := Scope.isPathChar_of_all (by decide)
  have hvalid : Scope.ValidUri "//a" := Scope.isValid_iff.mp (by decide)
  have hreached : Scope.reached "//a" = "/a" := by decide
  refine ⟨first, second, hrun, ?_, ?_, ?_⟩
  · have hresolve := (Store.resolve_eq_discovery_iff hsound.wellFormed hopens).mpr
      ⟨"/a", Or.inr ⟨_, List.mem_cons_of_mem _ List.mem_cons_self, rfl⟩, rfl, rfl⟩
    have hpath : Provider.servedAt ++ "//a" ++ Document.openid.suffix
        = "/oidc//a/.well-known/openid-configuration" := by decide
    have hserves := @serves_of_resolve _ _ none _ _ _ hvalid hchars hreached hresolve
    rw [Metadata.toJson, hpath] at hserves
    exact hserves
  · have hset : JwkSet.ofIssuer (.ofProvider Store.sampleProvider "/a" [second])
        = ⟨[second.jwk]⟩ := hkept ▸ rfl
    have hdefaults : (Issuer.ofProvider Store.sampleProvider "/a" [second]).defaultCredentials
        ≠ [] := by
      rw [← hkept]
      exact List.cons_ne_nil _ _
    have hresolve : (Store.ofIssuers Store.sampleProvider
        (slashIssuers first second)).resolver.resolve ("/a" ++ Document.jwks.suffix)
          = some (.jwks ⟨[second.jwk]⟩) :=
      (Store.wellFormed_of_opens hsound.wellFormed hopens).resolve_eq_jwks_iff.mpr
        ⟨_, List.mem_cons_of_mem _ List.mem_cons_self, rfl, hdefaults, hset.symm⟩
    have hpath : Provider.servedAt ++ "//a" ++ Document.jwks.suffix = "/oidc//a/jwks" := by
      decide
    have hserves := @serves_of_resolve _ _ none _ _ _ hvalid hchars hreached hresolve
    rw [Metadata.toJson, hpath] at hserves
    exact hserves
  · intro hserves
    have hsame : Scope.reached "//a" = "//a" :=
      reached_eq_of_serves hsound hopens List.mem_cons_self hchars hserves.discovery
    exact absurd (hreached.symm.trans hsame) (by decide)

end Http
end WorkloadIdentity
