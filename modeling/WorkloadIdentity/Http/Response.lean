import WorkloadIdentity.Json.Document
import WorkloadIdentity.Json.Record
import WorkloadIdentity.Text.Decimal

/-!
# Responses

Answers to requests, and the header fields that all of them carry.
-/

namespace WorkloadIdentity
namespace Http

structure Response where
  status : Nat
  headers : List (String × String)
  body : String
  deriving DecidableEq, Repr

namespace Response

/-- An answer without a body. -/
def bare (status : Nat) : Response :=
  ⟨status, [], ""⟩

def text (status : Nat) (body : String) : Response :=
  ⟨status, [("content-type", "text/plain; charset=utf-8")], body⟩

def json (status : Nat) (document : Json) : Response :=
  ⟨status, [("content-type", "application/json")], document.compact⟩

/-- An answer that says that nothing was found. -/
def notFound (description : String) : Response :=
  json 404 (.object (Json.member "error" (.ofText "not_found")
    ++ Json.member "error_description" (.ofText description)))

def withHeader (name value : String) (response : Response) : Response :=
  { response with headers := response.headers ++ [(name, value)] }

/-- The answer with the methods that are allowed at its address. -/
def withAllow (response : Response) : Response :=
  response.withHeader "allow" "GET,HEAD"

/-- The answer with the fields that keep browsers from misusing it. -/
def withSecurity (response : Response) : Response :=
  ((response.withHeader "x-frame-options" "DENY").withHeader
    "x-content-type-options" "nosniff").withHeader "referrer-policy" "no-referrer"

/-- The answer with the fields that let every origin read it. -/
def withOrigin (response : Response) : Response :=
  (response.withHeader "access-control-allow-origin" "*").withHeader "vary"
    "origin, access-control-request-method, access-control-request-headers"

def withLength (response : Response) : Response :=
  response.withHeader "content-length" (Decimal.text response.body.utf8ByteSize)

/-- The answer without its body; its length is still said. -/
def withoutBody (response : Response) : Response :=
  { response with body := "" }

end Response
end Http
end WorkloadIdentity
