import WorkloadIdentity.Json.Record

/-!
# Discovery documents

What an issuer says of itself: where its keys are and which tokens it issues.  Its endpoints for
interactive use are placeholders.
-/

namespace WorkloadIdentity

/-- The two documents that every issuer is served with. -/
inductive Document
  | openid
  | jwks
  deriving DecidableEq, Repr

/-- What follows the issuer's own address in the address of the document. -/
def Document.suffix : Document → String
  | openid => "/.well-known/openid-configuration"
  | jwks => "/jwks"

/-- The discovery document of an issuer. -/
structure Discovery where
  issuer : String
  jwksUri : String
  responseTypes : List String
  subjectTypes : List String
  signingAlgorithms : List String
  authorizationEndpoint : String
  tokenEndpoint : String
  deriving DecidableEq, Repr

namespace Discovery

/-- The address that stands for an endpoint that does not exist. -/
def noEndpoint : String := "https://unimplemented"

/-- The document of the issuer at a URL. -/
def ofIssuer (url : String) : Discovery where
  issuer := url
  jwksUri := url ++ Document.jwks.suffix
  responseTypes := ["code"]
  subjectTypes := ["public"]
  signingAlgorithms := ["RS256"]
  authorizationEndpoint := noEndpoint
  tokenEndpoint := noEndpoint

def textsToJson (texts : List String) : Json :=
  .array (texts.map Json.ofText)

def toJson (document : Discovery) : Json :=
  .object (Json.member "issuer" (.ofText document.issuer)
    ++ Json.member "jwks_uri" (.ofText document.jwksUri)
    ++ Json.member "response_types_supported" (textsToJson document.responseTypes)
    ++ Json.member "subject_types_supported" (textsToJson document.subjectTypes)
    ++ Json.member "id_token_signing_alg_values_supported"
      (textsToJson document.signingAlgorithms)
    ++ Json.member "authorization_endpoint" (.ofText document.authorizationEndpoint)
    ++ Json.member "token_endpoint" (.ofText document.tokenEndpoint))

def ofJson? (json : Json) : Option Discovery := do
  let record ← json.record? ["issuer", "jwks_uri", "response_types_supported",
    "subject_types_supported", "id_token_signing_alg_values_supported",
    "authorization_endpoint", "token_endpoint"]
  return {
    issuer := ← record.required? "issuer" Json.text?
    jwksUri := ← record.required? "jwks_uri" Json.text?
    responseTypes :=
      ← record.required? "response_types_supported" (Json.items? Json.text?)
    subjectTypes :=
      ← record.required? "subject_types_supported" (Json.items? Json.text?)
    signingAlgorithms :=
      ← record.required? "id_token_signing_alg_values_supported" (Json.items? Json.text?)
    authorizationEndpoint := ← record.required? "authorization_endpoint" Json.text?
    tokenEndpoint := ← record.required? "token_endpoint" Json.text? }

end Discovery
end WorkloadIdentity
