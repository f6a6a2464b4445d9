import WorkloadIdentity.Json.Document
import WorkloadIdentity.Resolver

/-!
# Tokens

The claims of identity tokens, and tokens as signed texts of three parts.

Tokens are signed by a library that checks an RSA key before each signature.  Its check is a
parameter of signing.  The check that runs has the limits that the library documents: modulus and
exponent are large enough, the factors are half as long as the modulus and a multiple of 512 bits,
and the private exponent is longer than the factors and below the modulus.  Which of them is named
where a key breaks several is not documented.
-/

namespace WorkloadIdentity

/-- What a token says. -/
structure Claims where
  issuer : String
  audience : Option String
  /-- When the token ends to be valid, in seconds since 1970. -/
  expires : UInt64
  /-- When it was issued. -/
  issuedAt : UInt64
  subject : String
  buildNumber : Option UInt64
  deriving DecidableEq, Repr

namespace Claims

def toJson (claims : Claims) : Json :=
  .object (Json.member "iss" (.ofText claims.issuer)
    ++ Json.memberOf "aud" Json.ofText claims.audience
    ++ Json.member "exp" (.ofWord claims.expires)
    ++ Json.member "iat" (.ofWord claims.issuedAt)
    ++ Json.member "sub" (.ofText claims.subject)
    ++ Json.memberOf "build_number" Json.ofWord claims.buildNumber)

def ofJson? (json : Json) : Option Claims := do
  let record ← json.record? ["iss", "aud", "exp", "iat", "sub", "build_number"]
  return {
    issuer := ← record.required? "iss" Json.text?
    audience := ← record.optional? "aud" Json.text?
    expires := ← record.required? "exp" Json.word?
    issuedAt := ← record.required? "iat" Json.word?
    subject := ← record.required? "sub" Json.text?
    buildNumber := ← record.optional? "build_number" Json.word? }

end Claims

namespace Rsa

/-- The number of bits of a positive number. -/
def bitLength (n : Nat) : Nat :=
  Nat.log2 n + 1

/-- What is held against a key that is to sign tokens, by name. -/
abbrev KeyCheck := PrivateKey → Option String

/-- The first limit that a key does not keep.  The length of the modulus counts in whole bytes. -/
def PrivateKey.limit? (key : PrivateKey) : Option String :=
  let half := (key.publicKey.bits + 1) / 2
  if 8 * key.publicKey.size < 2048 ∨ key.exponent < 65537 then some "TooSmall"
  else if bitLength key.prime1 ≠ half ∨ bitLength key.prime2 ≠ half then
    some "InconsistentComponents"
  else if half % 512 ≠ 0 then some "PrivateModulusLenNotMultipleOf512Bits"
  else if bitLength key.privateExponent ≤ half ∨ key.modulus ≤ key.privateExponent then
    some "InconsistentComponents"
  else none

end Rsa

/-- Why no token is issued. -/
inductive TokenFault
  | key (fault : KeyFault)
  | issuerNotFound (fault : IssuerNotFound)
  /-- Something is held against the key. -/
  | limit (name : String)
  /-- The key passes the check and gives no valid signature. -/
  | signing
  deriving DecidableEq, Repr

namespace TokenFault

/-- What is wrong with the signature, in words. -/
def signingDetail? : TokenFault → Option String
  | limit name => some ("RSA key invalid: " ++ name)
  | signing => some "RsaFailedSigning"
  | key _ | issuerNotFound _ => none

def message : TokenFault → String
  | key fault => fault.message
  | issuerNotFound fault => fault.message
  | limit name => "Token signing failed: RSA key invalid: " ++ name
  | signing => "Token signing failed: RsaFailedSigning"

end TokenFault

/-- A signed token with what it says. -/
structure Token where
  text : String
  claims : Claims
  deriving DecidableEq, Repr

namespace Token

def header (credential : Credential) : Json :=
  .object (Json.member "alg" (.ofText credential.algorithm.name)
    ++ Json.member "kid" (.ofText credential.id))

def part (bytes : Bytes) : String :=
  Base64.encode .urlSafe bytes

/-- The two parts that are signed, with the dot between them. -/
def signedText (credential : Credential) (claims : Claims) : String :=
  part (Bytes.ofText (header credential).compact) ++ "."
    ++ part (Bytes.ofText claims.toJson.compact)

/-- The signature of a message with a credential's key.  RSA keys must have an encoding and pass
the check. -/
def signature (credential : Credential) (message fresh : Bytes)
    (check : Rsa.KeyCheck := Rsa.PrivateKey.limit?) : Except TokenFault Bytes :=
  match credential.pair.material with
  | .rsa key _ _ =>
      match credential.pair.rsaPrivateBytes with
      | .error fault => .error (.key fault)
      | .ok _ =>
          match check key with
          | some name => .error (.limit name)
          | none =>
              match credential.pair.sign message fresh with
              | .error _ => .error .signing
              | .ok signature => .ok signature
  | .ec .. => (credential.pair.sign message fresh).mapError .key

/-- The number of fresh bytes that a signature takes. -/
def freshBytes : Nat := 32

def sign (credential : Credential) (claims : Claims)
    (check : Rsa.KeyCheck := Rsa.PrivateKey.limit?) : Random (Except TokenFault Token) := do
  let fresh ← Random.bytes freshBytes
  let text := signedText credential claims
  match signature credential (Bytes.ofText text) fresh check with
  | .error fault => return .error fault
  | .ok signature => return .ok ⟨text ++ "." ++ part signature, claims⟩

end Token

/-- A provider that issues tokens for the issuers of a resolver. -/
structure TokenIssuer where
  provider : Provider
  resolver : Resolver

namespace TokenIssuer

/-- For how long a token is valid, in seconds. -/
def lifetime : UInt64 := 3600

/-- The claims of a token for a credential, for a build or for none, at a time. -/
def claims (issuer : TokenIssuer) (credential : Credential) (build : Option Build)
    (now : UInt64) : Except TokenFault Claims := do
  let name ←
    match credential.issuer with
    | some name => .ok name
    | none =>
        match issuer.resolver.forCredential credential build with
        | .error fault => .error (.issuerNotFound fault)
        | .ok issuer => .ok issuer.url
  return {
    issuer := name
    audience := credential.audience
    expires := now + lifetime
    issuedAt := now
    subject := (build.map Build.subject).getD issuer.provider.rootSubject
    buildNumber := build.map Build.number }

def issue (issuer : TokenIssuer) (credential : Credential) (build : Option Build)
    (now : UInt64) (check : Rsa.KeyCheck := Rsa.PrivateKey.limit?) :
    Random (Except TokenFault Token) :=
  match issuer.claims credential build now with
  | .error fault => return .error fault
  | .ok claims => Token.sign credential claims check

end TokenIssuer
end WorkloadIdentity
