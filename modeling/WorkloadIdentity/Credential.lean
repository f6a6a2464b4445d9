import WorkloadIdentity.Key.Jwk
import WorkloadIdentity.Key.Record

/-!
# Credentials

A credential is a named signing identity: a key pair, with an issuer and an audience of its own
where they are set.  Empty texts count as not set.
-/

namespace WorkloadIdentity

/-- The kept form of a credential. -/
structure CredentialRecord where
  id : String
  description : Option String
  issuer : Option String
  audience : Option String
  keys : KeyRecord
  deriving DecidableEq, Repr

/-- A signing identity. -/
structure Credential where
  id : String
  description : Option String
  /-- The issuer in whose name it signs, where that is not the issuer of its scope. -/
  issuer : Option String
  audience : Option String
  pair : KeyPair
  /-- The encrypted form of the key pair. -/
  record : SealedKeys

namespace CredentialRecord

/-- The document of a record, unless its keys have the legacy shape. -/
def toJson? (record : CredentialRecord) : Option Json := do
  let keys ← record.keys.toJson?
  return .object (Json.member "id" (.ofText record.id)
    ++ Json.memberOf "description" Json.ofText record.description
    ++ Json.memberOf "issuer" Json.ofText record.issuer
    ++ Json.memberOf "audience" Json.ofText record.audience
    ++ Json.member "keys" keys)

/-- The record that a value inside `depth` containers spells. -/
def ofJson? (depth : Nat) (json : Json) : Option CredentialRecord := do
  let record ← json.record? ["id", "description", "issuer", "audience", "keys"]
  return {
    id := ← record.required? "id" Json.text?
    description := ← record.trailing? "description" Json.text?
    issuer := ← record.trailing? "issuer" Json.text?
    audience := ← record.trailing? "audience" Json.text?
    keys := ← record.required? "keys" (KeyRecord.ofJson? (depth + 1)) }

end CredentialRecord

namespace Credential

/-- An empty text counts as not set. -/
def unlessEmpty (text : Option String) : Option String :=
  text.filter (· ≠ "")

/-- A credential around a key pair, which is encrypted with fresh nonces. -/
def ofPair (master : MasterKey) (id : String) (pair : KeyPair) :
    Random (Except KeyFault Credential) := do
  match ← pair.toRecord master with
  | .error fault => return .error fault
  | .ok record =>
      return .ok { id, description := none, issuer := none, audience := none, pair, record }

def generate (master : MasterKey) (id : String) (algorithm : Algorithm) :
    Random (Except KeyFault Credential) := do
  match ← KeyPair.generate algorithm with
  | .error fault => return .error fault
  | .ok pair => ofPair master id pair

/-- The credential of a record, and whether its keys had the legacy shape. -/
def restore (master : MasterKey) (record : CredentialRecord) :
    Random (Except KeyFault (Credential × Bool)) := do
  match ← record.keys.load master with
  | .error fault => return .error fault
  | .ok loaded =>
      return .ok ({
        id := record.id
        description := unlessEmpty record.description
        issuer := unlessEmpty record.issuer
        audience := unlessEmpty record.audience
        pair := loaded.pair
        record := loaded.record }, loaded.migrated)

def withDescription (credential : Credential) (description : Option String) : Credential :=
  { credential with description := unlessEmpty description }

def withIssuer (credential : Credential) (issuer : Option String) : Credential :=
  { credential with issuer := unlessEmpty issuer }

def withAudience (credential : Credential) (audience : Option String) : Credential :=
  { credential with audience := unlessEmpty audience }

def algorithm (credential : Credential) : Algorithm :=
  credential.pair.algorithm

/-- The kept form, whose keys have the current shape. -/
def toRecord (credential : Credential) : CredentialRecord where
  id := credential.id
  description := credential.description
  issuer := credential.issuer
  audience := credential.audience
  keys := .current credential.record

def jwk (credential : Credential) : Jwk :=
  Jwk.ofPair credential.id credential.pair

/-- The set of the credential's key alone. -/
def jwkSet (credential : Credential) : JwkSet :=
  ⟨[credential.jwk]⟩

/-- An optional text in diagnostic output. -/
def describeOption : Option String → String
  | none => "None"
  | some text => "Some(" ++ Quoted.text text ++ ")"

/-- The credential in diagnostic output, without its keys. -/
def describe (credential : Credential) : String :=
  "Credential \x7b id: " ++ Quoted.text credential.id
    ++ ", issuer: " ++ describeOption credential.issuer
    ++ ", audience: " ++ describeOption credential.audience
    ++ ", algorithm: " ++ credential.algorithm.label ++ " \x7d"

end Credential
end WorkloadIdentity
