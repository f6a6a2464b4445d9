import WorkloadIdentity.Elliptic.Generation
import WorkloadIdentity.Key.Encoding
import WorkloadIdentity.Key.Fault
import WorkloadIdentity.Rsa.Generation

/-!
# Key pairs

Key material that is tied to one signing algorithm.

* `ofParts_ok_iff`: material is taken exactly when it is of the kind that the algorithm needs.
-/

namespace WorkloadIdentity

/-- Key material and the algorithm that it signs with. -/
structure KeyPair where
  algorithm : Algorithm
  material : Material
  fits : material.kind = algorithm.kind

namespace Material

/-- The material of a given kind in two envelopes; the public key must belong to the private
key. -/
def decode (kind : KeyKind) (privateBytes publicBytes : Bytes) : Except KeyFault Material :=
  match kind with
  | .rsa =>
      match Rsa.PrivateKey.open? privateBytes with
      | none => .error (.malformed .rsa .privateKey)
      | some ⟨key, consistent⟩ =>
          match PublicKey.decode? .rsa publicBytes with
          | none => .error (.malformed .rsa .publicKey)
          | some publicKey =>
              if h : publicKey = .rsa key.publicKey ∧ key.publicKey.Publishable then
                .ok (.rsa key consistent h.2)
              else .error .mismatchedHalves
  | .ec curve =>
      match Elliptic.PrivateKey.open? curve privateBytes with
      | none => .error (.malformed (.ec curve) .privateKey)
      | some key =>
          match PublicKey.decode? (.ec curve) publicBytes with
          | none => .error (.malformed (.ec curve) .publicKey)
          | some publicKey =>
              if publicKey = .ec curve key.point then .ok (.ec curve key)
              else .error .mismatchedHalves

/-- RSA material from a private key alone. -/
def ofRsaPrivate (privateBytes : Bytes) : Except KeyFault Material :=
  match Rsa.PrivateKey.open? privateBytes with
  | none => .error (.malformed .rsa .privateKey)
  | some ⟨key, consistent⟩ =>
      if publishable : key.publicKey.Publishable then .ok (.rsa key consistent publishable)
      else .error (.malformed .rsa .publicKey)

/-- The number of keys that are tried before generation gives up. -/
def maxTries : Nat := 64

/-- Fresh material of a family. -/
def generate : Family → Random (Except KeyFault Material)
  | .rsa bits => do
      match ← Rsa.generate? bits maxTries with
      | none => return .error .generation
      | some key =>
          if h : key.Consistent ∧ key.publicKey.Publishable then
            return .ok (.rsa key h.1 h.2)
          else return .error .generation
  | .ec curve => do
      match ← Elliptic.generate? curve maxTries with
      | none => return .error .generation
      | some key => return .ok (.ec curve key)

end Material

namespace KeyPair

/-- The material tied to an algorithm, if it is of the kind that the algorithm needs. -/
def ofParts (algorithm : Algorithm) (material : Material) : Except KeyFault KeyPair :=
  if fits : material.kind = algorithm.kind then .ok ⟨algorithm, material, fits⟩
  else .error (.foreignMaterial algorithm)

/-- The key pair in two envelopes. -/
def decode (algorithm : Algorithm) (privateBytes publicBytes : Bytes) :
    Except KeyFault KeyPair := do
  let material ← Material.decode algorithm.kind privateBytes publicBytes
  ofParts algorithm material

/-- The key pair of a record from before there were several algorithms: an RSA private key that
signs with RS256. -/
def ofRsaPrivate (privateBytes : Bytes) : Except KeyFault KeyPair := do
  let material ← Material.ofRsaPrivate privateBytes
  ofParts .rs256 material

def generate (algorithm : Algorithm) : Random (Except KeyFault KeyPair) := do
  match ← Material.generate algorithm.family with
  | .error fault => return .error fault
  | .ok material => return ofParts algorithm material

def publicKey (pair : KeyPair) : PublicKey :=
  pair.material.publicKey

/-- The bytes of the public key that are published. -/
def components (pair : KeyPair) : Components :=
  pair.publicKey.components

/-- The private key in its envelope. -/
def privateBytes (pair : KeyPair) : Except KeyFault Bytes :=
  match pair.material.encodePrivate? with
  | none => .error .unencodable
  | some bytes => .ok bytes

/-- The RSA private key without an envelope. -/
def rsaPrivateBytes (pair : KeyPair) : Except KeyFault Bytes :=
  match pair.material with
  | .rsa key _ _ =>
      match key.encode? with
      | none => .error .unencodable
      | some bytes => .ok bytes
  | .ec .. => .error (.foreignMaterial pair.algorithm)

/-- The public key in its envelope. -/
def publicBytes (pair : KeyPair) : Bytes :=
  pair.publicKey.encode

/-- The signature of a message.  On curves it depends on the fresh bytes; with none of them it is
determined by key and message. -/
def sign (pair : KeyPair) (message fresh : Bytes) : Except KeyFault Bytes :=
  match pair.material with
  | .rsa key _ _ => (Rsa.sign pair.algorithm.digest key message).mapError .signing
  | .ec curve key =>
      match Elliptic.sign? curve pair.algorithm.digest key message fresh with
      | none => .error .noSecretNumber
      | some signature => .ok signature

/-- The signature belongs to the message under the public key and the algorithm. -/
def verify (algorithm : Algorithm) (key : PublicKey) (message signature : Bytes) : Bool :=
  match key with
  | .rsa key => Rsa.verify algorithm.digest key message signature
  | .ec curve point => Elliptic.verify curve algorithm.digest point message signature

/-- The key pair in diagnostic output, which shows nothing of the private key. -/
def describe (pair : KeyPair) : String :=
  "KeyPair \x7b algorithm: " ++ pair.algorithm.label ++ ", material: KeyMaterial("
    ++ pair.material.kind.label ++ ", [REDACTED]) \x7d"

theorem ofParts_ok_iff
    {algorithm : Algorithm} {material : Material} {pair : KeyPair} :
    ofParts algorithm material = .ok pair
      ↔ pair.algorithm = algorithm ∧ pair.material = material := by
  unfold ofParts
  constructor
  · intro h
    split at h
    · cases h
      exact ⟨rfl, rfl⟩
    · cases h
  · rintro ⟨rfl, rfl⟩
    rw [dif_pos pair.fits]

end KeyPair
end WorkloadIdentity
