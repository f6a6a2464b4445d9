import WorkloadIdentity.Http.Service
import WorkloadIdentity.Store.Restore

/-!
# Administrators' pages say nothing without the key

A request for an administrator's page is answered only if a key is set and the first header field
for it sends that key.  All other requests below the path of these pages get an answer that does
not depend on the store: services with the same key and any two stores answer alike.

* `refusal?_eq_none_iff`: which requests are admitted.
* `respond_unauthenticated`: what is answered to all others.
-/

namespace WorkloadIdentity
namespace Http

/-- The first header field with a name, in any case, can be read and spells a text. -/
def Request.Sends
    (request : Request)
    (name text : String) : Prop :=
  ∃ before field after, request.headers = before ++ field :: after ∧
    (∀ other ∈ before, other.1.toLower ≠ name.toLower) ∧
    field.1.toLower = name.toLower ∧
    field.2.all isVisible = true ∧
    field.2 = Bytes.ofText text

/-- A key is set that is not empty, and the request sends it. -/
def Request.Authenticated
    (request : Request)
    (setting : Option String) : Prop :=
  ∃ key, setting = some key ∧ key ≠ "" ∧ request.Sends adminKeyHeader key

theorem Request.header?_eq_some_iff
    {request : Request} {name text : String} :
    request.header? name = some text ↔ request.Sends name text := by
  simp only [header?, Option.bind_eq_bind, Option.bind_eq_some_iff,
    List.find?_eq_some_iff_append]
  constructor
  · rintro ⟨field, ⟨hname, before, after, hheaders, hbefore⟩, htext⟩
    split at htext
    · next hvisible =>
      refine ⟨before, field, after, hheaders, ?_, by simpa using hname, hvisible,
        (Bytes.ofText_of_text? htext).symm⟩
      intro other hother
      simpa using hbefore other hother
    · cases htext
  · rintro ⟨before, field, after, hheaders, hbefore, hname, hvisible, hbytes⟩
    refine ⟨field, ⟨by simpa using hname, before, after, hheaders, ?_⟩, ?_⟩
    · intro other hother
      simpa using hbefore other hother
    · rw [if_pos hvisible, hbytes, Bytes.text?_ofText]

variable {setting : Option String} {request : Request} {resolver : Resolver}

/-- A key that is not empty is the one that is asked for. -/
theorem refusal?_ofKey_some
    {key : String}
    (hne : key ≠ "") :
    refusal? (.ofKey resolver (some key)) request
      = if (request.header? adminKeyHeader).getD "" = key then none else some (.bare 401) := by
  have hkey : (AppState.ofKey resolver (some key)).adminKey = some key := by
    simp [AppState.ofKey, Option.filter_some, hne]
  rw [refusal?, hkey]

/-- The status of a refusal says whether there is a key at all. -/
theorem refusal?_of_unauthenticated
    (h : ¬ request.Authenticated setting) :
    refusal? (.ofKey resolver setting) request
      = some (.bare (if setting = none ∨ setting = some "" then 503 else 401)) := by
  cases setting with
  | none => rfl
  | some key =>
      by_cases hempty : key = ""
      · subst hempty
        rfl
      · have hwrong : (request.header? adminKeyHeader).getD "" ≠ key := by
          intro heq
          cases hheader : request.header? adminKeyHeader with
          | none =>
              rw [hheader] at heq
              exact hempty heq.symm
          | some text =>
              rw [hheader] at heq
              obtain rfl : text = key := heq
              exact h ⟨text, rfl, hempty, Request.header?_eq_some_iff.mp hheader⟩
        rw [refusal?_ofKey_some hempty, if_neg hwrong, if_neg (by simp [hempty])]

/-- Exactly the authenticated requests are admitted. -/
theorem refusal?_eq_none_iff :
    refusal? (.ofKey resolver setting) request = none ↔ request.Authenticated setting := by
  constructor
  · intro hnone
    by_cases hrequest : request.Authenticated setting
    · exact hrequest
    · rw [refusal?_of_unauthenticated hrequest] at hnone
      cases hnone
  · rintro ⟨key, rfl, hne, hsends⟩
    have hheader := Request.header?_eq_some_iff.mpr hsends
    rw [refusal?_ofKey_some hne, hheader]
    exact if_pos rfl

/-- The path is that of all administrators' pages, or below it. -/
def UnderAdmin
    (path : String) : Prop :=
  path = "/admin" ∨ ∃ rest, path = "/admin/" ++ rest

/-- The path of a page. -/
def AdminPage.path : AdminPage → String
  | checkIssuer => "/admin/check-issuer"
  | discovery => "/admin/well-known-openid-configuration"
  | jwks => "/admin/jwks"
  | algorithms => "/admin/algorithms"

theorem AdminPage.ofPath?_path
    (page : AdminPage) :
    ofPath? page.path = some page := by
  cases page <;> rfl

theorem AdminPage.underAdmin_path
    (page : AdminPage) :
    UnderAdmin page.path := by
  cases page with
  | checkIssuer => exact Or.inr ⟨"check-issuer", by decide⟩
  | discovery => exact Or.inr ⟨"well-known-openid-configuration", by decide⟩
  | jwks => exact Or.inr ⟨"jwks", by decide⟩
  | algorithms => exact Or.inr ⟨"algorithms", by decide⟩

/-- Below the path of administrators' pages there is nothing else. -/
theorem Route.ofPath?_of_underAdmin
    {path : String}
    (h : UnderAdmin path) :
    Route.ofPath? path = (AdminPage.ofPath? path).map .admin := by
  have hbelow : belowIssuers? path = none := by
    rcases h with rfl | ⟨rest, rfl⟩
    · decide
    · simp [belowIssuers?]
  have hhealth : path ≠ "/health" := by
    rcases h with rfl | ⟨rest, rfl⟩
    · decide
    · intro heq
      have hchars := congrArg String.toList heq
      simp at hchars
  rw [Route.ofPath?, hbelow]
  exact if_neg hhealth

/-- Where both of two services refuse a request alike, they answer it alike. -/
theorem respond_eq_of_refused
    {first second : AppState} {refusal : Response}
    (hpath : UnderAdmin request.path)
    (hfirst : refusal? first request = some refusal)
    (hsecond : refusal? second request = some refusal) :
    respond first request = respond second request := by
  have hroute (page : AdminPage) :
      routeResponse first request (.admin page) = routeResponse second request (.admin page) := by
    simp only [routeResponse, Route.refusal?, hfirst, hsecond]
  simp only [respond, Route.ofPath?_of_underAdmin hpath]
  cases AdminPage.ofPath? request.path with
  | none => rfl
  | some page => simp only [Option.map_some, hroute]

/-- A page that is refused answers with the refusal alone. -/
theorem respond_get_of_refused
    {state : AppState} {refusal : Response} {page : AdminPage}
    (hmethod : request.method = "GET")
    (hpage : request.path = page.path)
    (hrefusal : refusal? state request = some refusal) :
    respond state request = refusal.withSecurity.withOrigin.withLength := by
  have hroute : Route.ofPath? request.path = some (.admin page) := by
    rw [hpage, Route.ofPath?_of_underAdmin page.underAdmin_path, AdminPage.ofPath?_path]
    rfl
  have hanswer : routeResponse state request (.admin page) = refusal := by
    simp [routeResponse, Route.refusal?, hrefusal, hmethod]
  simp [respond, hroute, hanswer, hmethod]

/-- Below the path of administrators' pages, two services with the same key answer a request that
is not authenticated alike, whatever stores they have.  If it asks for a page, it is refused. -/
theorem respond_unauthenticated
    (hpath : UnderAdmin request.path)
    (hrequest : ¬ request.Authenticated setting)
    (first second : Resolver) :
    respond (.ofKey first setting) request = respond (.ofKey second setting) request ∧
      ∀ page : AdminPage, request.method = "GET" → request.path = page.path →
        respond (.ofKey first setting) request
          = (Response.bare
              (if setting = none ∨ setting = some "" then 503 else 401)
            ).withSecurity.withOrigin.withLength := by
  have hrefused (resolver : Resolver) := @refusal?_of_unauthenticated _ _ resolver hrequest
  constructor
  · exact respond_eq_of_refused hpath (hrefused first) (hrefused second)
  · intro page hmethod hpage
    exact respond_get_of_refused hmethod hpage (hrefused first)

/-- A question about a scope, with a key that was guessed. -/
def guessingRequest : Request :=
  ⟨"GET", "/admin/check-issuer", some "scope=/job", [("x-admin-key", Bytes.ofText "guess")]⟩

theorem guessingRequest_not_authenticated :
    ¬ guessingRequest.Authenticated (some "secret") := by
  rintro ⟨key, hkey, -, before, field, after, hheaders, -, -, -, hbytes⟩
  cases hkey
  have hfield : field ∈ guessingRequest.headers :=
    hheaders ▸ List.mem_append_right before List.mem_cons_self
  obtain rfl := List.mem_singleton.mp hfield
  have htext := congrArg Bytes.text? hbytes
  rw [Bytes.text?_ofText, Bytes.text?_ofText] at htext
  exact absurd htext (by decide)

/-- A guess does not tell whether there is a scope. -/
theorem respond_guessingRequest :
    respond (.ofKey (Store.ofIssuers ⟨"https://ci.example.org"⟩ []).resolver (some "secret"))
        guessingRequest
      = respond (.ofKey (Store.ofIssuers ⟨"https://ci.example.org"⟩
          [.ofProvider ⟨"https://ci.example.org"⟩ "/job" []]).resolver (some "secret"))
        guessingRequest ∧
    respond (.ofKey (Store.ofIssuers ⟨"https://ci.example.org"⟩ []).resolver (some "secret"))
        guessingRequest
      = (Response.bare 401).withSecurity.withOrigin.withLength := by
  have hrespond := respond_unauthenticated (Or.inr ⟨"check-issuer", by decide⟩)
    guessingRequest_not_authenticated
    (Store.ofIssuers ⟨"https://ci.example.org"⟩ []).resolver
    (Store.ofIssuers ⟨"https://ci.example.org"⟩
      [.ofProvider ⟨"https://ci.example.org"⟩ "/job" []]).resolver
  exact ⟨hrespond.1, hrespond.2 .checkIssuer rfl rfl⟩

end Http
end WorkloadIdentity
