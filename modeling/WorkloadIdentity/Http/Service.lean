import WorkloadIdentity.Administration
import WorkloadIdentity.Http.Request
import WorkloadIdentity.Http.Response

/-!
# The service

The answers to all requests: the documents of issuers for everybody, and pages for administrators
behind a key.
-/

namespace WorkloadIdentity
namespace Http

/-- What the service answers from. -/
structure AppState where
  resolver : Resolver
  /-- The key that administrators send; without one their pages are closed. -/
  adminKey : Option String

/-- The state with a key, where an empty key is none. -/
def AppState.ofKey (resolver : Resolver) (adminKey : Option String) : AppState :=
  ⟨resolver, adminKey.filter (· ≠ "")⟩

inductive AdminPage
  | checkIssuer
  | discovery
  | jwks
  | algorithms
  deriving DecidableEq, Repr

/-- The addresses that the service knows. -/
inductive Route
  /-- A document of an issuer, at a path with its escapes. -/
  | metadata (path : String)
  | health
  | admin (page : AdminPage)
  deriving DecidableEq, Repr

/-- The page at a path below that of all such pages. -/
def AdminPage.ofPath? : String → Option AdminPage
  | "/admin/check-issuer" => some checkIssuer
  | "/admin/well-known-openid-configuration" => some discovery
  | "/admin/jwks" => some jwks
  | "/admin/algorithms" => some algorithms
  | _ => none

/-- What stands below the path of all issuers, if there is something. -/
def belowIssuers? (path : String) : Option String :=
  let chars := path.toList
  let above := "/oidc/".toList
  if above.isPrefixOf chars ∧ above.length < chars.length then
    some (String.ofList (chars.drop above.length))
  else none

def Route.ofPath? (path : String) : Option Route :=
  match belowIssuers? path with
  | some below => some (.metadata below)
  | none =>
      if path = "/health" then some .health else (AdminPage.ofPath? path).map .admin

/-- The document of an issuer at a path with its escapes. -/
def metadataPage (state : AppState) (path : String) : Response :=
  match Bytes.text? (Percent.decode (Bytes.ofText path)) with
  | none => .text 400 "Invalid URL: Invalid UTF-8 in `path`"
  | some path =>
      let path := "/" ++ String.ofList (path.toList.dropWhile (· = '/'))
      match state.resolver.resolve path with
      | none => .notFound ("No issuer metadata at " ++ path)
      | some document => .json 200 document.toJson

/-- An answer to fields of which one occurs twice. -/
def repeatedField (name : String) : Response :=
  .text 400 ("Failed to deserialize query string: duplicate field `" ++ name ++ "`")

/-- An answer to fields of which one is missing. -/
def missingField (name : String) : Response :=
  .text 400 ("Failed to deserialize query string: missing field `" ++ name ++ "`")

/-- The page of an administrator whose key was accepted. -/
def adminPage (state : AppState) (request : Request) (page : AdminPage) : Response :=
  let fields := request.fields
  match page with
  | .algorithms => .json 200 (.array (algorithmNames.map Json.ofText))
  | .discovery =>
      match Request.repeated? ["issuer"] fields with
      | some name => repeatedField name
      | none =>
          match fields.lookup "issuer" with
          | none => missingField "issuer"
          | some issuer => .json 200 (Discovery.ofIssuer issuer).toJson
  | .checkIssuer =>
      match Request.repeated? ["scope", "id", "issuer"] fields with
      | some name => repeatedField name
      | none =>
          .json 200 (state.resolver.checkIssuer ((fields.lookup "scope").getD "")
            ((fields.lookup "id").getD "") (fields.lookup "issuer")).toJson
  | .jwks =>
      match Request.repeated? ["scope", "id", "issuer"] fields with
      | some name => repeatedField name
      | none =>
          let id := (fields.lookup "id").getD ""
          let issuer := (fields.lookup "issuer").getD ""
          match state.resolver.credentialJwks? ((fields.lookup "scope").getD "") id issuer with
          | none => .notFound ("No credential " ++ id ++ " served from " ++ issuer)
          | some set => .json 200 set.toJson

/-- The name of the header field with an administrator's key. -/
def adminKeyHeader : String := "X-Admin-Key"

/-- The refusal of an administrator's request, unless its key is the right one. -/
def refusal? (state : AppState) (request : Request) : Option Response :=
  match state.adminKey with
  | none => some (.bare 503)
  | some key =>
      if (request.header? adminKeyHeader).getD "" = key then none else some (.bare 401)

/-- The answer of an address that is asked for what it holds. -/
def page (state : AppState) (request : Request) : Route → Response
  | .metadata path => metadataPage state path
  | .health => .text 200 "OK"
  | .admin which => adminPage state request which

/-- A key is asked for at the address. -/
def Route.refusal? (state : AppState) (request : Request) : Route → Option Response
  | .admin _ => Http.refusal? state request
  | .metadata _ | .health => none

/-- The answer of a known address to a method.  Its key is asked for before its method counts. -/
def routeResponse (state : AppState) (request : Request) (route : Route) : Response :=
  let isRead := request.method = "GET" ∨ request.method = "HEAD"
  let response :=
    match route.refusal? state request with
    | some refusal => refusal
    | none => if isRead then page state request route else Response.bare 405
  if isRead then response else response.withAllow

/-- The answer to a question about what an address allows. -/
def optionsResponse (route : Option Route) : Response :=
  let response := (((Response.bare 200).withOrigin).withHeader
    "access-control-allow-methods" "GET").withHeader "access-control-max-age" "3600"
  (if route.isSome then response.withAllow else response).withLength

def respond (state : AppState) (request : Request) : Response :=
  let route := Route.ofPath? request.path
  if request.method = "OPTIONS" then optionsResponse route
  else
    let response :=
      match route with
      | none => Response.bare 404
      | some route => routeResponse state request route
    let response := response.withSecurity.withOrigin.withLength
    if request.method = "HEAD" then response.withoutBody else response

end Http
end WorkloadIdentity
