import WorkloadIdentity.Der.KeyInfo
import WorkloadIdentity.Key.Material

/-!
# Encodings of keys

Private keys in PKCS#8 envelopes, public keys in X.509 envelopes, and bare RSA private keys
(PKCS#1).  Elliptic-curve keys are accepted only under the identifier of their own curve.
-/

namespace WorkloadIdentity
namespace Der

/-- The identifier of RSA keys. -/
def rsaName : Bytes :=
  [0x2a, 0x86, 0x48, 0x86, 0xf7, 0x0d, 0x01, 0x01, 0x01]

/-- The identifier of elliptic-curve keys. -/
def ecName : Bytes :=
  [0x2a, 0x86, 0x48, 0xce, 0x3d, 0x02, 0x01]

def curveName : Curve → Bytes
  | .p256 => [0x2a, 0x86, 0x48, 0xce, 0x3d, 0x03, 0x01, 0x07]
  | .p384 => [0x2b, 0x81, 0x04, 0x00, 0x22]
  | .p521 => [0x2b, 0x81, 0x04, 0x00, 0x23]

/-- The algorithm of RSA keys, with its empty parameter. -/
def rsaAlgorithm : AlgorithmId :=
  ⟨rsaName, some null⟩

/-- The algorithm of keys on a curve. -/
def ecAlgorithm (curve : Curve) : AlgorithmId :=
  ⟨ecName, some (identifier (curveName curve))⟩

/-- The bytes, if they are short enough to stand in an element. -/
def bounded? (bytes : Bytes) : Option Bytes :=
  if bytes.length < maxLength then some bytes else none

end Der

namespace Rsa

open Der

/-- The bare encoding of a private key; there is none where a factor has no inverse modulo the
other. -/
def PrivateKey.encode? (key : PrivateKey) : Option Bytes := do
  let coefficient ← key.coefficient?
  bounded? (sequence [natural 0, natural key.modulus, natural key.exponent,
    natural key.privateExponent, natural key.prime1, natural key.prime2,
    natural (key.privateExponent % (key.prime1 - 1)),
    natural (key.privateExponent % (key.prime2 - 1)), natural coefficient]).encode

/-- The numbers of a bare two-prime private key.  Those that are derived from the others are read
and not kept. -/
def PrivateKey.decode? (bytes : Bytes) : Option PrivateKey := do
  let elements ← Der.sequence? bytes
  match ← elements.mapM Element.natural? with
  | [0, modulus, exponent, privateExponent, prime1, prime2, _, _, _] =>
      return ⟨modulus, exponent, privateExponent, prime1, prime2⟩
  | _ => none

def PublicKey.encode (key : PublicKey) : Bytes :=
  (Der.sequence [natural key.modulus, natural key.exponent]).encode

def PublicKey.decode? (bytes : Bytes) : Option PublicKey := do
  let elements ← Der.sequence? bytes
  match ← elements.mapM Element.natural? with
  | [modulus, exponent] => return ⟨modulus, exponent⟩
  | _ => none

end Rsa

namespace Elliptic

open Der

/-- The encoding of a private key with its public point, inside its envelope. -/
def PrivateKey.encode {curve : Curve} (key : PrivateKey curve) : Bytes :=
  (Der.sequence [natural 1, octetString (Bytes.fixed curve.width key.scalar),
    ⟨Tag.wrapped 1, (bitString (Elliptic.encode curve key.point)).encode⟩]).encode

/-- The bytes are the content of an object identifier with arcs of at most 32 bits. -/
def isIdentifier (content : Bytes) : Bool :=
  3 ≤ content.length && content.length ≤ 39 && content.headD 0 < 120
    && arcs 0 (content.drop 1)
where
  /-- The remaining bytes are whole arcs, `used` bytes of the first being read already. -/
  arcs (used : Nat) : Bytes → Bool
    | [] => used == 0
    | byte :: rest =>
        if 4 ≤ used ∧ byte &&& 0xF0 ≠ 0 then false
        else arcs (if byte < 0x80 then 0 else used + 1) rest

/-- The optional parameters at the head of the elements are the identifier of some curve. -/
def dropParameters? : List Element → Option (List Element)
  | [] => some []
  | element :: rest =>
      if Tag.context? element.tag = some 0 then do
        let inner ← if element.tag = Tag.wrapped 0 then single? element.content else none
        let content ← inner.content? Tag.identifier
        if isIdentifier content then some rest else none
      else some (element :: rest)

/-- The optional public point, which ends the elements; parameters given again are passed over. -/
def publicPoint? : List Element → Option (Option Bytes)
  | [] => some none
  | element :: rest =>
      if Tag.context? element.tag = some 0 then publicPoint? rest
      else if element.tag = Tag.wrapped 1 ∧ rest = [] then
        ((single? element.content).bind Element.bits?).map some
      else none

/-- The private key that bytes inside an envelope hold.  A shorter number is padded; a public
point that is given must be the key's own. -/
def PrivateKey.decode? (curve : Curve) (bytes : Bytes) : Option (PrivateKey curve) := do
  match ← Der.sequence? bytes with
  | version :: scalar :: rest =>
      let version ← version.natural?
      let scalar ← scalar.content? Tag.octetString
      let rest ← dropParameters? rest
      let point ← publicPoint? rest
      if version = 1 ∧ 24 ≤ scalar.length ∧ scalar.length ≤ curve.width then
        let key ← PrivateKey.ofScalar? curve (Bytes.toNat scalar)
        match point with
        | none => some key
        | some point =>
            if point = Elliptic.encode curve key.point
                ∨ point = Elliptic.encodeShort curve key.point then
              some key
            else none
      else none
  | _ => none

end Elliptic

namespace Material

open Der

/-- The private key in its envelope. -/
def encodePrivate? : Material → Option Bytes
  | rsa key _ _ => do
      let bytes ← key.encode?
      bounded? (PrivateKeyInfo.encode ⟨rsaAlgorithm, bytes⟩)
  | ec curve key => some (PrivateKeyInfo.encode ⟨ecAlgorithm curve, key.encode⟩)

end Material

namespace PublicKey

open Der

/-- The public key in its envelope. -/
def encode : PublicKey → Bytes
  | rsa key => PublicKeyInfo.encode ⟨rsaAlgorithm, key.encode⟩
  | ec curve point => PublicKeyInfo.encode ⟨ecAlgorithm curve, Elliptic.encode curve point⟩

/-- The public key of a given kind in an envelope; RSA keys must be small enough to be
published. -/
def decode? (kind : KeyKind) (bytes : Bytes) : Option PublicKey := do
  let info ← PublicKeyInfo.decode? bytes
  match kind with
  | .rsa =>
      let key ← if info.algorithm = rsaAlgorithm then Rsa.PublicKey.decode? info.key else none
      if key.Publishable then some (.rsa key) else none
  | .ec curve =>
      let point ←
        if info.algorithm = ecAlgorithm curve then Elliptic.decode? curve info.key else none
      some (.ec curve point)

end PublicKey

/-- A consistent RSA private key in an envelope. -/
def Rsa.PrivateKey.open? (bytes : Bytes) : Option { key : Rsa.PrivateKey // key.Consistent } := do
  let info ← Der.PrivateKeyInfo.decode? bytes
  let key ← if info.algorithm = Der.rsaAlgorithm then decode? info.key else none
  if h : key.Consistent then some ⟨key, h⟩ else none

/-- A private key on a curve in an envelope. -/
def Elliptic.PrivateKey.open? (curve : Curve) (bytes : Bytes) :
    Option (Elliptic.PrivateKey curve) := do
  let info ← Der.PrivateKeyInfo.decode? bytes
  if info.algorithm = Der.ecAlgorithm curve then decode? curve info.key else none

end WorkloadIdentity
