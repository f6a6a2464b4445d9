import WorkloadIdentity.Resolver
import WorkloadIdentity.Text.Percent
import WorkloadIdentity.Url.Address

/-!
# Administration

Checks of what administrators type in, and the documents for issuers that are hosted elsewhere.
-/

namespace WorkloadIdentity

/-- The outcome of a check. -/
inductive Finding
  | ok (message : String)
  | warning (message : String)
  | error (message : String)
  deriving DecidableEq, Repr

namespace Finding

def kind : Finding → String
  | ok _ => "ok"
  | warning _ => "warning"
  | error _ => "error"

def message : Finding → String
  | ok message => message
  | warning message => message
  | error message => message

/-- The outcome of a given kind. -/
def ofKind? : String → Option (String → Finding)
  | "ok" => some ok
  | "warning" => some warning
  | "error" => some error
  | _ => none

def toJson (finding : Finding) : Json :=
  .object (Json.member "kind" (.ofText finding.kind)
    ++ Json.member "message" (.ofText finding.message))

def ofJson? (json : Json) : Option Finding := do
  let record ← json.record? ["kind", "message"]
  let finding ← record.required? "kind" (Json.choice? ofKind?)
  return finding (← record.required? "message" Json.text?)

end Finding

/-- What can be wrong with the URL of an issuer. -/
inductive IssuerUrlFault
  | malformed
  | scheme
  | query
  | fragment
  | trailingSlash
  deriving DecidableEq, Repr

def IssuerUrlFault.message : IssuerUrlFault → String
  | malformed => "Not a well-formed URI"
  | scheme => "Issuer URIs should use https scheme"
  | query => "Issuer URIs must not have a query component"
  | fragment => "Issuer URIs must not have a fragment component"
  | trailingSlash => "Issuer URIs should not end with a slash (/) in this context"

/-- The ASCII characters that a URI does not hold unescaped, blanks and controls apart. -/
def reserved : List Char :=
  ['"', '<', '>', '\\', '^', '\x60', '\x7b', '|', '\x7d']

/-- A character may stand in a URI: it is no blank, no control and not reserved. -/
def isUriChar (c : Char) : Bool :=
  0x80 ≤ c.toNat || (0x21 ≤ c.toNat && c.toNat ≤ 0x7e && !reserved.contains c)

/-- The text holds characters of a URI only, and every percent sign begins an escape. -/
def isUriText (text : String) : Bool :=
  text.toList.all isUriChar && Percent.escapesWhole text.toList

/-- The first thing that is wrong with the URL of an issuer, which is taken as it was typed. -/
def checkIssuerUrl (text : String) : Option IssuerUrlFault :=
  match Url.parse? text with
  | none => some .malformed
  | some url =>
      if !isUriText text then some .malformed
      else if !text.startsWith "https:" then some .scheme
      else if url.query.isSome then some .query
      else if url.fragment.isSome then some .fragment
      else if text.endsWith "/" then some .trailingSlash
      else none

namespace Resolver

/-- What an administrator has to publish for a credential at an issuer elsewhere. -/
def instructions (issuer : String) : String :=
  "Serve " ++ issuer ++ Document.openid.suffix
    ++ " with the well-known OpenID configuration for this issuer and " ++ issuer
    ++ Document.jwks.suffix
    ++ " with the JWKS of this credential (both as application/json). "
    ++ "Note that the JWKS document will need to be updated if you resave these credentials."

/-- The check of the issuer that is typed in for a credential of a scope. -/
def checkIssuer (resolver : Resolver) (scope id : String) (issuer : Option String) : Finding :=
  let name := issuer.getD ""
  let found := resolver.forConfig scope
  if name = "" then
    match found with
    | some served => .ok ("Issuer URI: " ++ served.url)
    | none => .warning "Unable to determine the issuer URI"
  else
    match checkIssuerUrl name with
    | some fault => .error fault.message
    | none =>
        match found with
        | none =>
            .warning "Unable to determine where these credentials are being saved"
        | some served =>
            if (served.find? id name).isSome then .ok (instructions name)
            else .ok "Save these credentials, then return to this screen for instructions"

/-- The keys to publish at an issuer elsewhere for a saved credential. -/
def credentialJwks? (resolver : Resolver) (scope id issuer : String) : Option JwkSet := do
  let served ← resolver.forConfig scope
  let credential ← served.find? id issuer
  return credential.jwkSet

/-- The keys to publish at an issuer elsewhere for a saved credential, or why its key cannot be
encoded. -/
def credentialJwks (resolver : Resolver) (scope id name : String) :
    Except KeyFault (Option JwkSet) :=
  match resolver.forConfig scope with
  | none => .ok none
  | some served =>
      match served.find? id name with
      | none => .ok none
      | some credential => do
          let key ← Jwk.encode credential.id credential.pair
          return some ⟨[key]⟩

end Resolver

/-- The names of the algorithms that administrators choose from. -/
def algorithmNames : List String :=
  Algorithm.all.map Algorithm.name

end WorkloadIdentity
