/-!
# Signing algorithms

The six algorithms that tokens are signed with, the kind of key that each of them needs, and
their names in the JWS registry.

* `Algorithm.ofName?` reads a name back: `ofName?_name` and `name_injective`.
-/

namespace WorkloadIdentity

/-- The named curves of the elliptic-curve algorithms. -/
inductive Curve
  | p256
  | p384
  | p521
  deriving DecidableEq, Repr

namespace Curve

def name : Curve → String
  | p256 => "P-256"
  | p384 => "P-384"
  | p521 => "P-521"

/-- The number of bytes of a coordinate or a scalar. -/
def width : Curve → Nat
  | p256 => 32
  | p384 => 48
  | p521 => 66

end Curve

/-- The kinds of key: an RSA key of any size, or a key on one curve. -/
inductive KeyKind
  | rsa
  | ec (curve : Curve)
  deriving DecidableEq, Repr

/-- What an algorithm asks of a freshly generated key. -/
inductive Family
  | rsa (bits : Nat)
  | ec (curve : Curve)
  deriving DecidableEq, Repr

/-- The kind of key of a family, whatever its size. -/
def Family.kind : Family → KeyKind
  | rsa _ => .rsa
  | ec curve => .ec curve

/-- The hash functions that signatures are taken over. -/
inductive Digest
  | sha256
  | sha384
  | sha512
  deriving DecidableEq, Repr

/-- The supported signing algorithms. -/
inductive Algorithm
  | es256
  | es384
  | es512
  | rs256
  | rs384
  | rs512
  deriving DecidableEq, Repr

namespace Algorithm

/-- Every algorithm, in the order in which administrators are offered them. -/
def all : List Algorithm :=
  [es256, es384, es512, rs256, rs384, rs512]

def name : Algorithm → String
  | es256 => "ES256"
  | es384 => "ES384"
  | es512 => "ES512"
  | rs256 => "RS256"
  | rs384 => "RS384"
  | rs512 => "RS512"

/-- The algorithm called exactly `text`; case and blanks count. -/
def ofName? (text : String) : Option Algorithm :=
  all.find? fun algorithm => algorithm.name == text

/-- The algorithm's label in diagnostic output. -/
def label : Algorithm → String
  | es256 => "Es256"
  | es384 => "Es384"
  | es512 => "Es512"
  | rs256 => "Rs256"
  | rs384 => "Rs384"
  | rs512 => "Rs512"

/-- The key family, with the modulus size for generated RSA keys. -/
def family : Algorithm → Family
  | es256 => .ec .p256
  | es384 => .ec .p384
  | es512 => .ec .p521
  | rs256 => .rsa 2048
  | rs384 => .rsa 3072
  | rs512 => .rsa 4096

/-- The kind of key that signs with this algorithm. -/
def kind (algorithm : Algorithm) : KeyKind :=
  algorithm.family.kind

/-- The hash function that the algorithm signs with. -/
def digest : Algorithm → Digest
  | es256 | rs256 => .sha256
  | es384 | rs384 => .sha384
  | es512 | rs512 => .sha512

def curve? (algorithm : Algorithm) : Option Curve :=
  match algorithm.family with
  | .rsa _ => none
  | .ec curve => some curve

@[simp] theorem ofName?_name
    (algorithm : Algorithm) :
    ofName? algorithm.name = some algorithm := by
  cases algorithm <;> decide

theorem name_of_ofName?
    {text : String} {algorithm : Algorithm}
    (h : ofName? text = some algorithm) :
    algorithm.name = text := by
  have := List.find?_some h
  simpa using this

theorem name_injective
    {a b : Algorithm}
    (h : a.name = b.name) :
    a = b := by
  have := ofName?_name a
  rw [h, ofName?_name] at this
  exact (Option.some.inj this).symm

theorem kind_eq_rsa_iff
    {algorithm : Algorithm} :
    algorithm.kind = .rsa ↔ algorithm = rs256 ∨ algorithm = rs384 ∨ algorithm = rs512 := by
  cases algorithm <;> decide

/-- The algorithm that signs with keys on a curve. -/
def ofCurve : Curve → Algorithm
  | .p256 => es256
  | .p384 => es384
  | .p521 => es512

theorem kind_eq_ec_iff
    {algorithm : Algorithm} {curve : Curve} :
    algorithm.kind = .ec curve ↔ algorithm = ofCurve curve := by
  cases algorithm <;> cases curve <;> decide

end Algorithm
end WorkloadIdentity
