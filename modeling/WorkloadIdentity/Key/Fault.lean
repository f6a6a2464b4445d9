import WorkloadIdentity.Key.Material
import WorkloadIdentity.Text.Hex
import WorkloadIdentity.Text.Quoted

/-!
# What can be wrong with keys and secrets

The causes for which a key, a key record or the master key is refused, and their wording.
-/

namespace WorkloadIdentity

/-- The two halves of a key pair. -/
inductive KeyHalf
  | privateKey
  | publicKey
  deriving DecidableEq, Repr

def KeyHalf.name : KeyHalf → String
  | privateKey => "private key"
  | publicKey => "public key"

/-- The secrets that a key record holds. -/
inductive StoredSecret
  | current (half : KeyHalf)
  /-- The private key of a record from before there were several algorithms. -/
  | legacy
  deriving DecidableEq, Repr

def StoredSecret.name : StoredSecret → String
  | current half => half.name
  | legacy => "legacy private key"

/-- Why a secret cannot be decrypted. -/
inductive SecretFault
  /-- The text is not base64. -/
  | encoding
  /-- The bytes hold no nonce. -/
  | short
  /-- The tag does not fit the key and the bytes. -/
  | unauthentic
  /-- The decrypted bytes are no text. -/
  | notText
  deriving DecidableEq, Repr

def SecretFault.message : SecretFault → String
  | encoding => "invalid ciphertext encoding: not base64"
  | short => "data too short"
  | unauthentic => "authentication failed: wrong master key or corrupted secret"
  | notText => "invalid UTF-8: not a text"

/-- What is wrong with a hexadecimal text, in words. -/
def Hex.Fault.message : Hex.Fault → String
  | oddLength => "Odd number of digits"
  | badByte byte index =>
      "Invalid character " ++ Quoted.char (Char.ofNat byte.toNat) ++ " at position "
        ++ toString index

/-- Why an operation on a file fails. -/
inductive FileFault
  | notFound
  | isDirectory
  | notDirectory
  | notText
  /-- The path holds a NUL. -/
  | badPath
  deriving DecidableEq, Repr

def FileFault.message : FileFault → String
  | notFound => "no such file or directory"
  | isDirectory => "is a directory"
  | notDirectory => "not a directory"
  | notText => "not a text in UTF-8"
  | badPath => "a path that holds a NUL"

/-- Why an operation on keys fails. -/
inductive KeyFault
  /-- No algorithm has this name. -/
  | unsupportedAlgorithm (name : String)
  /-- One half of a key pair cannot be read as a key of its kind. -/
  | malformed (kind : KeyKind) (half : KeyHalf)
  /-- The public key is not the one that belongs to the private key. -/
  | mismatchedHalves
  /-- The private key has no encoding. -/
  | unencodable
  /-- A decrypted secret is not base64. -/
  | notBase64 (stored : StoredSecret)
  /-- The master key is not hexadecimal. -/
  | masterKeyDigits (fault : Hex.Fault)
  /-- The master key has a wrong number of bytes. -/
  | masterKeySize (size : Nat)
  /-- A secret cannot be decrypted. -/
  | secret (fault : SecretFault)
  /-- The material is of another kind than the algorithm needs. -/
  | foreignMaterial (algorithm : Algorithm)
  /-- The random bytes gave no key. -/
  | generation
  /-- The key gives no signature. -/
  | signing (fault : Rsa.SignFault)
  /-- The random bytes gave no secret number for a signature. -/
  | noSecretNumber
  /-- A file operation fails. -/
  | file (fault : FileFault)
  deriving DecidableEq, Repr

namespace KeyFault

def message : KeyFault → String
  | unsupportedAlgorithm name => "Unsupported key algorithm: " ++ name
  | malformed kind half =>
      "Key decode failed: " ++ kind.name ++ " " ++ half.name ++ ": malformed encoding"
  | mismatchedHalves => "Key decode failed: public key does not belong to private key"
  | unencodable => "Key decode failed: private key encoding: factors are not coprime"
  | notBase64 stored => "Key decode failed: " ++ stored.name ++ ": not base64"
  | masterKeyDigits fault => "Key decode failed: master key: " ++ fault.message
  | masterKeySize size =>
      "Key decode failed: master key must be 32 bytes, got " ++ toString size
  | secret fault => "Encryption error: " ++ fault.message
  | foreignMaterial algorithm =>
      "Key material does not belong to the " ++ algorithm.name ++ " family"
  | generation => "Key generation failed: no key within the number of tries"
  | signing .shortModulus => "Key cannot sign: modulus too short for the hash"
  | signing .unsoundResult => "Key cannot sign: factors are not prime"
  | noSecretNumber => "Key cannot sign: no secret number within the number of tries"
  | file fault => "IO error: " ++ fault.message

end KeyFault
end WorkloadIdentity
