import WorkloadIdentity.Elliptic.Signature
import WorkloadIdentity.Rsa.Signature

/-!
# Key material

The private keys that sign tokens and the public keys that belong to them.  RSA material is
consistent and small enough to be published; elliptic-curve material carries its public point.
-/

namespace WorkloadIdentity

/-- A public key of either kind. -/
inductive PublicKey
  | rsa (key : Rsa.PublicKey)
  | ec (curve : Curve) (point : Point)
  deriving DecidableEq, Repr

/-- The bytes of a public key that are published. -/
inductive Components
  /-- Modulus and exponent, most significant byte first. -/
  | rsa (n e : Bytes)
  /-- The coordinates of the point, in the width of the curve's field. -/
  | ec (curve : Curve) (x y : Bytes)
  deriving DecidableEq, Repr

/-- The kind of key that published bytes belong to. -/
def Components.kind : Components → KeyKind
  | rsa .. => .rsa
  | ec curve .. => .ec curve

def PublicKey.components : PublicKey → Components
  | rsa key => .rsa (Bytes.ofNat key.modulus) (Bytes.ofNat key.exponent)
  | ec curve point =>
      .ec curve (Bytes.fixed curve.width point.x) (Bytes.fixed curve.width point.y)

/-- A private key of either kind. -/
inductive Material
  | rsa (key : Rsa.PrivateKey) (consistent : key.Consistent)
      (publishable : key.publicKey.Publishable)
  | ec (curve : Curve) (key : Elliptic.PrivateKey curve)

namespace Material

def kind : Material → KeyKind
  | rsa .. => .rsa
  | ec curve _ => .ec curve

def publicKey : Material → PublicKey
  | rsa key _ _ => .rsa key.publicKey
  | ec curve key => .ec curve key.point

end Material

namespace KeyKind

/-- The kind as it is named in messages about encodings. -/
def name : KeyKind → String
  | rsa => "RSA"
  | ec curve => curve.name

/-- The kind as it is shown in diagnostic output. -/
def label : KeyKind → String
  | rsa => "RSA"
  | ec curve => "EC " ++ curve.name

end KeyKind
end WorkloadIdentity
