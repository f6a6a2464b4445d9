import WorkloadIdentity.Issuer

/-!
# Scopes

The URIs of scopes, and which of them a job below another sees.

* `mem_visible_iff`: a build sees exactly the issuers whose scopes enclose its own.
-/

namespace WorkloadIdentity
namespace Scope

/-- The outer scope is the root, the inner one itself, or above it. -/
def encloses (outer inner : String) : Bool :=
  outer == "" || inner == outer || (outer ++ "/").toList.isPrefixOf inner.toList

/-- The URI is empty, or begins with a slash and does not end with one. -/
def isValid (uri : String) : Bool :=
  uri == "" || (uri.toList.head? == some '/' && uri.toList.getLast? != some '/')

/-- The issuers that a build in a scope sees, innermost first. -/
def visible (issuers : List Issuer) (scope : String) : List Issuer :=
  (issuers.filter fun issuer => encloses issuer.uri scope).mergeSort
    fun a b => b.uri.utf8ByteSize ≤ a.uri.utf8ByteSize

/-- The issuer with a URI. -/
def find? (issuers : List Issuer) (uri : String) : Option Issuer :=
  issuers.find? fun issuer => issuer.uri == uri

/-- The source of a list of issuers, one for each scope. -/
def factory (issuers : List Issuer) : IssuerFactory where
  forContext build := visible issuers build.scope
  forConfig scope := find? issuers scope
  forUri uri := find? issuers uri

theorem mem_visible_iff
    {issuers : List Issuer} {scope : String} {issuer : Issuer} :
    issuer ∈ visible issuers scope ↔ issuer ∈ issuers ∧ encloses issuer.uri scope = true := by
  simp [visible]

end Scope
end WorkloadIdentity
