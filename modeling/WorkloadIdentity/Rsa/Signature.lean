import WorkloadIdentity.Hash.Sha2
import WorkloadIdentity.Rsa.Key

/-!
# RSA signatures

Deterministic signatures: the hash with its name, padded to the size of the modulus and raised to
the private exponent.

* `verify_of_sign`: every signature that is given out verifies under the public key.
-/

namespace WorkloadIdentity
namespace Rsa

/-- The encoded name of a hash function that stands before a hash. -/
def hashName : Digest → Bytes
  | .sha256 =>
      [0x30, 0x31, 0x30, 0x0d, 0x06, 0x09, 0x60, 0x86, 0x48, 0x01, 0x65, 0x03, 0x04, 0x02, 0x01,
        0x05, 0x00, 0x04, 0x20]
  | .sha384 =>
      [0x30, 0x41, 0x30, 0x0d, 0x06, 0x09, 0x60, 0x86, 0x48, 0x01, 0x65, 0x03, 0x04, 0x02, 0x02,
        0x05, 0x00, 0x04, 0x30]
  | .sha512 =>
      [0x30, 0x51, 0x30, 0x0d, 0x06, 0x09, 0x60, 0x86, 0x48, 0x01, 0x65, 0x03, 0x04, 0x02, 0x03,
        0x05, 0x00, 0x04, 0x40]

/-- The padded hash of a message, in `size` bytes; at least eight bytes of padding must fit. -/
def padded? (digest : Digest) (size : Nat) (message : Bytes) : Option Bytes :=
  let body := hashName digest ++ digest.hash message
  if size < body.length + 11 then none
  else some (0x00 :: 0x01 :: (List.replicate (size - body.length - 3) 0xff ++ 0x00 :: body))

/-- The bytes are the signature of the message under the public key. -/
def verify (digest : Digest) (key : PublicKey) (message signature : Bytes) : Bool :=
  match padded? digest key.size message with
  | none => false
  | some block =>
      signature.length == key.size
        && Modular.pow key.modulus (Bytes.toNat signature) key.exponent
          == Bytes.toNat block % key.modulus

/-- Why a key gives no signature. -/
inductive SignFault
  /-- The modulus is too short for the hash. -/
  | shortModulus
  /-- The result does not lead back to the padded hash: the factors are not prime. -/
  | unsoundResult
  deriving DecidableEq, Repr

/-- The signature of a message, checked before it is given out. -/
def sign (digest : Digest) (key : PrivateKey) (message : Bytes) : Except SignFault Bytes :=
  match padded? digest key.publicKey.size message with
  | none => .error .shortModulus
  | some block =>
      let signature := Bytes.fixed key.publicKey.size (key.raise (Bytes.toNat block))
      if verify digest key.publicKey message signature then .ok signature
      else .error .unsoundResult

theorem verify_of_sign
    {digest : Digest} {key : PrivateKey} {message signature : Bytes}
    (h : sign digest key message = .ok signature) :
    verify digest key.publicKey message signature = true := by
  unfold sign at h
  split at h
  · cases h
  · simp only at h
    split at h
    · next hv => cases h; exact hv
    · cases h

theorem length_of_sign
    {digest : Digest} {key : PrivateKey} {message signature : Bytes}
    (h : sign digest key message = .ok signature) :
    signature.length = key.publicKey.size := by
  unfold sign at h
  split at h
  · cases h
  · simp only at h
    split at h
    · cases h
      simp
    · cases h

end Rsa
end WorkloadIdentity
