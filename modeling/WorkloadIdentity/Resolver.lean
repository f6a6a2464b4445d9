import WorkloadIdentity.Discovery
import WorkloadIdentity.Issuer

/-!
# Finding issuers

The issuer that governs a token, an administrator's request or a published address.
-/

namespace WorkloadIdentity

/-- The root issuer, and factories that are asked in order for all others. -/
structure Resolver where
  root : Issuer
  factories : List IssuerFactory

/-- No issuer that a build may use holds the credential. -/
structure IssuerNotFound where
  credential : String
  build : String
  deriving DecidableEq, Repr

def IssuerNotFound.message (fault : IssuerNotFound) : String :=
  "Could not find issuer corresponding to " ++ fault.credential ++ " for " ++ fault.build

/-- The text without an ending, if it has that ending. -/
def dropSuffix? (ending text : String) : Option String :=
  let chars := text.toList
  let count := chars.length - ending.toList.length
  if chars.drop count = ending.toList then some (String.ofList (chars.take count)) else none

/-- A document that is served. -/
inductive Metadata
  | discovery (document : Discovery)
  | jwks (set : JwkSet)
  deriving DecidableEq, Repr

def Metadata.toJson : Metadata → Json
  | discovery document => document.toJson
  | jwks set => set.toJson

namespace Resolver

/-- The issuer in whose name a credential signs: the root issuer where no build asks, and else the
first issuer open to the build that holds the credential. -/
def forCredential (resolver : Resolver) (credential : Credential) :
    Option Build → Except IssuerNotFound Issuer
  | none => .ok resolver.root
  | some build =>
      let issuers := resolver.factories.flatMap fun factory => factory.forContext build
      match issuers.find? fun issuer => issuer.contains credential.id with
      | none => .error ⟨credential.id, build.identifier⟩
      | some issuer => .ok issuer

/-- The issuer of the scope that an administrator looks at. -/
def forConfig (resolver : Resolver) (scope : String) : Option Issuer :=
  resolver.factories.findSome? fun factory => factory.forConfig scope

/-- The issuer that serves a document at a path.  The first factory that answers for the path's
URI decides, and its issuer must be at that very URI; a set of keys is served only if it is not
empty. -/
def forPath (resolver : Resolver) (path : String) (document : Document) : Option Issuer := do
  let uri ← dropSuffix? document.suffix path
  let issuer ← resolver.factories.findSome? fun factory => factory.forUri uri
  if issuer.uri ≠ uri then none
  else if document = .jwks ∧ issuer.defaultCredentials.isEmpty then none
  else some issuer

/-- The document that is served at a path. -/
def resolve (resolver : Resolver) (path : String) : Option Metadata :=
  match resolver.forPath path .openid with
  | some issuer => some (.discovery (.ofIssuer issuer.url))
  | none => (resolver.forPath path .jwks).map fun issuer => .jwks (.ofIssuer issuer)

/-- The document that is served at a path, or why one of its keys cannot be encoded. -/
def serve (resolver : Resolver) (path : String) : Except KeyFault (Option Metadata) :=
  match resolver.forPath path .openid with
  | some issuer => .ok (some (.discovery (.ofIssuer issuer.url)))
  | none =>
      match resolver.forPath path .jwks with
      | none => .ok none
      | some issuer => do
          let keys ← Jwk.encodeAll issuer.credentials
          return some (.jwks ⟨keys⟩)

end Resolver
end WorkloadIdentity
