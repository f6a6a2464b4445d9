import WorkloadIdentity.Cipher.Gcm
import WorkloadIdentity.Entropy
import WorkloadIdentity.Hash.Sha3
import WorkloadIdentity.Key.Fault
import WorkloadIdentity.Text.Base64

/-!
# The master key

Secrets at rest are encrypted under a master key of thirty-two bytes, and written in base64 as a
nonce, the encrypted text and its tag.

* `decrypt_encryptWith`: a secret is read back under the key that it was written with.
* `eq_encryptWith_of_decrypt`: nothing else is read under a key.
-/

namespace WorkloadIdentity

/-- A key of thirty-two bytes. -/
structure MasterKey where
  bytes : Bytes
  length_bytes : bytes.length = 32

namespace MasterKey

/-- The key with the given bytes. -/
def ofBytes (bytes : Bytes) : Except KeyFault MasterKey :=
  if h : bytes.length = 32 then .ok ⟨bytes, h⟩ else .error (.masterKeySize bytes.length)

/-- What is hashed before a passphrase, so that its hash serves this purpose alone. -/
def domainTag : String := "jobtoken-master-key-v1:"

/-- The key that is derived from a passphrase. -/
def ofPassphrase (passphrase : String) : Except KeyFault MasterKey :=
  ofBytes (Sha3.sha256 (Bytes.ofText (domainTag ++ passphrase)))

/-- The key that hexadecimal digits spell. -/
def ofText (text : String) : Except KeyFault MasterKey :=
  match Hex.decode text with
  | .error fault => .error (.masterKeyDigits fault)
  | .ok bytes => ofBytes bytes

/-- The encrypted form of a text with a given nonce. -/
def encryptWith (key : MasterKey) (nonce : Bytes) (text : String) : String :=
  Base64.encode .standard (nonce ++ Gcm.encrypt key.bytes nonce (Bytes.ofText text))

/-- The encrypted form of a text with a fresh nonce. -/
def encrypt (key : MasterKey) (text : String) : Random String := do
  let nonce ← Random.bytes Gcm.nonceSize
  return key.encryptWith nonce text

/-- The text that was encrypted. -/
def decrypt (key : MasterKey) (secret : String) : Except KeyFault String :=
  match Base64.decode .standard secret with
  | none => .error (.secret .encoding)
  | some bytes =>
      if bytes.length < Gcm.nonceSize then .error (.secret .short)
      else
        match Gcm.decrypt? key.bytes (bytes.take Gcm.nonceSize) (bytes.drop Gcm.nonceSize) with
        | none => .error (.secret .unauthentic)
        | some bytes =>
            match Bytes.text? bytes with
            | none => .error (.secret .notText)
            | some text => .ok text

theorem decrypt_encryptWith
    (key : MasterKey) {nonce : Bytes}
    (h : nonce.length = Gcm.nonceSize) (text : String) :
    key.decrypt (key.encryptWith nonce text) = .ok text := by
  simp only [decrypt, encryptWith, Base64.decode_encode, List.length_append]
  rw [if_neg (by omega), List.take_left' h, List.drop_left' h, Gcm.decrypt?_encrypt]
  simp

theorem eq_encryptWith_of_decrypt
    {key : MasterKey} {secret text : String}
    (h : key.decrypt secret = .ok text) :
    ∃ nonce, nonce.length = Gcm.nonceSize ∧ secret = key.encryptWith nonce text := by
  simp only [decrypt] at h
  split at h
  · cases h
  · next bytes hdecode =>
    split at h
    · cases h
    · next hlen =>
      split at h
      · cases h
      · next plain hplain =>
        split at h
        · cases h
        · next htext =>
          cases h
          refine ⟨bytes.take Gcm.nonceSize, by simp; omega, ?_⟩
          rw [encryptWith, Bytes.ofText_of_text? htext, ← Gcm.eq_encrypt_of_decrypt? hplain,
            List.take_append_drop]
          exact Base64.eq_encode_of_decode hdecode

end MasterKey
end WorkloadIdentity
