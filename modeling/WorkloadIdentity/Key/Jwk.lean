import WorkloadIdentity.Json.Limits
import WorkloadIdentity.Json.Record
import WorkloadIdentity.Key.Pair
import WorkloadIdentity.Text.Base64

/-!
# JSON Web Keys

Public keys as they are published.  RSA numbers are written in base64 for URLs without padding,
coordinates of points in padded standard base64.
-/

namespace WorkloadIdentity

/-- The members of a published RSA key. -/
structure RsaJwk where
  kid : String
  kty : String
  alg : String
  purpose : String
  n : String
  e : String
  deriving DecidableEq, Repr

/-- The members of a published key on a curve. -/
structure EcJwk where
  alg : String
  kty : String
  purpose : String
  kid : String
  crv : String
  x : String
  y : String
  deriving DecidableEq, Repr

/-- A published key. -/
inductive Jwk
  | rsa (key : RsaJwk)
  | ec (key : EcJwk)
  deriving DecidableEq, Repr

namespace Jwk

/-- The public key of a pair under a key id. -/
def ofPair (kid : String) (pair : KeyPair) : Jwk :=
  match pair.components with
  | .rsa n e =>
      rsa {
        kid
        kty := "RSA"
        alg := pair.algorithm.name
        purpose := "sig"
        n := Base64.encode .urlSafe n
        e := Base64.encode .urlSafe e }
  | .ec curve x y =>
      ec {
        alg := pair.algorithm.name
        kty := "EC"
        purpose := "sig"
        kid
        crv := curve.name
        x := Base64.encode .standard x
        y := Base64.encode .standard y }

/-- The public key of a pair under a key id, if it is of the kind that the algorithm needs. -/
def encode (kid : String) (pair : KeyPair) : Except KeyFault Jwk :=
  if pair.components.kind = pair.algorithm.kind then .ok (ofPair kid pair)
  else .error (.foreignMaterial pair.algorithm)

def kid : Jwk → String
  | rsa key => key.kid
  | ec key => key.kid

def alg : Jwk → String
  | rsa key => key.alg
  | ec key => key.alg

/-- The kind of key in the words of the registry. -/
def shape : Jwk → String
  | rsa _ => "RSA"
  | ec _ => "EC"

def toJson : Jwk → Json
  | rsa key =>
      .object (Json.member "kid" (.ofText key.kid) ++ Json.member "kty" (.ofText key.kty)
        ++ Json.member "alg" (.ofText key.alg) ++ Json.member "use" (.ofText key.purpose)
        ++ Json.member "n" (.ofText key.n) ++ Json.member "e" (.ofText key.e))
  | ec key =>
      .object (Json.member "alg" (.ofText key.alg) ++ Json.member "kty" (.ofText key.kty)
        ++ Json.member "use" (.ofText key.purpose) ++ Json.member "kid" (.ofText key.kid)
        ++ Json.member "crv" (.ofText key.crv) ++ Json.member "x" (.ofText key.x)
        ++ Json.member "y" (.ofText key.y))

def rsa? (json : Json) : Option Jwk := do
  let record ← json.record? ["kid", "kty", "alg", "use", "n", "e"]
  return rsa {
    kid := ← record.required? "kid" Json.text?
    kty := ← record.required? "kty" Json.text?
    alg := ← record.required? "alg" Json.text?
    purpose := ← record.required? "use" Json.text?
    n := ← record.required? "n" Json.text?
    e := ← record.required? "e" Json.text? }

def ec? (json : Json) : Option Jwk := do
  let record ← json.record? ["alg", "kty", "use", "kid", "crv", "x", "y"]
  return ec {
    alg := ← record.required? "alg" Json.text?
    kty := ← record.required? "kty" Json.text?
    purpose := ← record.required? "use" Json.text?
    kid := ← record.required? "kid" Json.text?
    crv := ← record.required? "crv" Json.text?
    x := ← record.required? "x" Json.text?
    y := ← record.required? "y" Json.text? }

/-- The key that a value inside `depth` containers spells; an RSA key is tried first. -/
def ofJson? (depth : Nat) (json : Json) : Option Jwk := do
  let json ← json.kept? depth
  (rsa? json).or (ec? json)

end Jwk

/-- A published set of keys. -/
structure JwkSet where
  keys : List Jwk
  deriving DecidableEq, Repr

namespace JwkSet

/-- The first key with a given key id. -/
def find? (set : JwkSet) (kid : String) : Option Jwk :=
  set.keys.find? fun key => key.kid == kid

def toJson (set : JwkSet) : Json :=
  .object (Json.member "keys" (.array (set.keys.map Jwk.toJson)))

def ofJson? (json : Json) : Option JwkSet := do
  let record ← json.record? ["keys"]
  return ⟨← record.required? "keys" (Json.items? (Jwk.ofJson? 2))⟩

end JwkSet
end WorkloadIdentity
