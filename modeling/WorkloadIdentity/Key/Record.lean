import WorkloadIdentity.Json.Limits
import WorkloadIdentity.Json.Record
import WorkloadIdentity.Key.Pair
import WorkloadIdentity.MasterKey

/-!
# Key records

The encrypted form in which key pairs are kept.  A record names its algorithm and holds both keys,
each in base64 and then encrypted.  Records from before there were several algorithms hold a
private RSA key alone; they are read, and never written.
-/

namespace WorkloadIdentity

/-- An algorithm's name with both keys, encrypted one by one. -/
structure SealedKeys where
  algorithm : String
  privateKey : String
  publicKey : String
  deriving DecidableEq, Repr

/-- A key record of either shape. -/
inductive KeyRecord
  | current (keys : SealedKeys)
  | legacy (privateKey : String)
  deriving DecidableEq, Repr

/-- A key pair that was loaded from a record. -/
structure LoadedKey where
  pair : KeyPair
  /-- The record to keep from now on. -/
  record : SealedKeys
  /-- Whether the record had the legacy shape. -/
  migrated : Bool

/-- Both keys of a pair, encrypted with fresh nonces. -/
def KeyPair.toRecord (master : MasterKey) (pair : KeyPair) :
    Random (Except KeyFault SealedKeys) :=
  match pair.privateBytes with
  | .error fault => return .error fault
  | .ok privateBytes => do
      let privateKey ← master.encrypt (Base64.encode .standard privateBytes)
      let publicKey ← master.encrypt (Base64.encode .standard pair.publicBytes)
      return .ok ⟨pair.algorithm.name, privateKey, publicKey⟩

/-- The bytes of a stored secret. -/
def MasterKey.decryptBytes (master : MasterKey) (stored : StoredSecret) (secret : String) :
    Except KeyFault Bytes := do
  let text ← master.decrypt secret
  match Base64.decode .standard text with
  | none => .error (.notBase64 stored)
  | some bytes => .ok bytes

/-- The key pair that a record holds.  The algorithm is looked at first, then the private key. -/
def SealedKeys.decrypt (master : MasterKey) (keys : SealedKeys) : Except KeyFault KeyPair :=
  match Algorithm.ofName? keys.algorithm with
  | none => .error (.unsupportedAlgorithm keys.algorithm)
  | some algorithm => do
      let privateBytes ← master.decryptBytes (.current .privateKey) keys.privateKey
      let publicBytes ← master.decryptBytes (.current .publicKey) keys.publicKey
      KeyPair.decode algorithm privateBytes publicBytes

namespace KeyRecord

/-- Whether the record has the shape from before there were several algorithms. -/
def isLegacy : KeyRecord → Bool
  | current _ => false
  | legacy _ => true

/-- The key pair of a legacy record. -/
def migrate (master : MasterKey) (privateKey : String) : Except KeyFault KeyPair := do
  let bytes ← master.decryptBytes .legacy privateKey
  KeyPair.ofRsaPrivate bytes

/-- The key pair of a record, with a record of the current shape. -/
def load (master : MasterKey) : KeyRecord → Random (Except KeyFault LoadedKey)
  | current keys =>
      match keys.decrypt master with
      | .error fault => return .error fault
      | .ok pair => return .ok ⟨pair, keys, false⟩
  | legacy privateKey =>
      match migrate master privateKey with
      | .error fault => return .error fault
      | .ok pair => do
          match ← pair.toRecord master with
          | .error fault => return .error fault
          | .ok keys => return .ok ⟨pair, keys, true⟩

/-- The current shape, which may hold other members too. -/
def current? (json : Json) : Option KeyRecord := do
  let record ← json.record? ["algorithm", "privateKey", "publicKey"]
  return current {
    algorithm := ← record.required? "algorithm" Json.text?
    privateKey := ← record.required? "privateKey" Json.text?
    publicKey := ← record.required? "publicKey" Json.text? }

/-- No member but the private key is given. -/
def holdsPrivateKeyOnly : Json → Bool
  | .object members => members.all fun member => member.1 == some "privateKey"
  | _ => true

/-- The legacy shape, which may hold no other member. -/
def legacy? (json : Json) : Option KeyRecord := do
  let record ← json.record? ["privateKey"]
  if holdsPrivateKeyOnly json then
    return legacy (← record.required? "privateKey" Json.text?)
  else none

/-- The record that a value inside `depth` containers spells; the current shape is tried first. -/
def ofJson? (depth : Nat) (json : Json) : Option KeyRecord := do
  let json ← json.kept? depth
  (current? json).or (legacy? json)

/-- What is said of records that are not written. -/
def legacyMessage : String :=
  "legacy key records must be migrated before they are persisted"

/-- The document of a record; legacy records have none. -/
def toJson? : KeyRecord → Option Json
  | current keys =>
      some (.object (Json.member "algorithm" (.ofText keys.algorithm)
        ++ Json.member "privateKey" (.ofText keys.privateKey)
        ++ Json.member "publicKey" (.ofText keys.publicKey)))
  | legacy _ => none

end KeyRecord
end WorkloadIdentity
