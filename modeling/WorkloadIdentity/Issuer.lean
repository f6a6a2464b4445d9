import WorkloadIdentity.Build
import WorkloadIdentity.Credential
import WorkloadIdentity.Provider

/-!
# Issuers

An issuer is an address with the credentials that sign in its name.  Factories find issuers for
builds, for administrators and for addresses.
-/

namespace WorkloadIdentity

/-- The credentials that are served at an address. -/
structure Issuer where
  /-- The address below that of all issuers: empty, or such as `/job/team`. -/
  uri : String
  /-- The whole address, which tokens name. -/
  url : String
  credentials : List Credential

namespace Issuer

def ofProvider (provider : Provider) (uri : String) (credentials : List Credential) : Issuer :=
  ⟨uri, provider.issuerUrl uri, credentials⟩

/-- A credential with the given id belongs to the issuer. -/
def contains (issuer : Issuer) (id : String) : Bool :=
  issuer.credentials.any fun credential => credential.id == id

/-- The credentials that sign in the issuer's own name. -/
def defaultCredentials (issuer : Issuer) : List Credential :=
  issuer.credentials.filter fun credential => credential.issuer.isNone

/-- The first credential with an id that signs in a given name other than the issuer's. -/
def find? (issuer : Issuer) (id name : String) : Option Credential :=
  issuer.credentials.find? fun credential =>
    credential.id == id && credential.issuer == some name

end Issuer

/-- The published keys of an issuer.  A credential with an issuer of its own has its key
published elsewhere. -/
def JwkSet.ofIssuer (issuer : Issuer) : JwkSet :=
  ⟨issuer.credentials.filterMap fun credential =>
    match credential.issuer with
    | some _ => none
    | none => some credential.jwk⟩

/-- The keys of credentials, one after the other; those that sign in another name are left out. -/
def Jwk.encodeAll : List Credential → Except KeyFault (List Jwk)
  | [] => .ok []
  | credential :: rest =>
      match credential.issuer with
      | some _ => encodeAll rest
      | none => do
          let key ← encode credential.id credential.pair
          let keys ← encodeAll rest
          return key :: keys

/-- A source of issuers. -/
structure IssuerFactory where
  /-- The issuers that a build may use, innermost first. -/
  forContext : Build → List Issuer
  /-- The issuer of the scope that an administrator looks at. -/
  forConfig : String → Option Issuer
  /-- The issuer at a URI. -/
  forUri : String → Option Issuer

end WorkloadIdentity
