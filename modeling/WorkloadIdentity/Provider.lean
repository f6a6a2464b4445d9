import WorkloadIdentity.Json.Record
import WorkloadIdentity.Text.Blank

/-!
# The provider

The host that issues tokens, known by its root URL, and the URLs of the issuers under it.
-/

namespace WorkloadIdentity

/-- The provider at a root URL. -/
structure Provider where
  rootUrl : String
  deriving DecidableEq, Repr

namespace Provider

def trimSlashes (text : String) : String :=
  String.ofList (dropEnd (· == '/') text.toList)

/-- The provider at a URL; slashes at its end do not count. -/
def ofUrl (url : String) : Provider :=
  ⟨trimSlashes url⟩

/-- The path under which issuers are served. -/
def servedAt : String := "/oidc"

/-- The URL of the issuer with a given URI. -/
def issuerUrl (provider : Provider) (uri : String) : String :=
  provider.rootUrl ++ servedAt ++ uri

/-- The subject of tokens that no build asks for. -/
def rootSubject (provider : Provider) : String :=
  provider.rootUrl ++ "/"

def toJson (provider : Provider) : Json :=
  .object (Json.member "root_url" (.ofText provider.rootUrl))

/-- The provider that a document spells; its root URL is taken as it stands. -/
def ofJson? (json : Json) : Option Provider := do
  let record ← json.record? ["root_url"]
  return ⟨← record.required? "root_url" Json.text?⟩

end Provider
end WorkloadIdentity
