import WorkloadIdentity.Algorithm
import WorkloadIdentity.Arithmetic.Modular
import WorkloadIdentity.Bytes

/-!
# Points of the named curves

The curves `y ^ 2 = x ^ 3 - 3 * x + b` over prime fields, multiplication of a point by a number,
and the encoding of points as bytes.

* `decode?_encode`: an encoded point of the curve is read back.
* `onCurve_of_decode?`: whatever is read is a point of the curve.
-/

namespace WorkloadIdentity

namespace Curve

/-- The number of elements of the field. -/
def field : Curve → Nat
  | p256 => 0xffffffff00000001000000000000000000000000ffffffffffffffffffffffff
  | p384 =>
      0xfffffffffffffffffffffffffffffffffffffffffffffffffffffffffffffffeffffffff0000000000000000ffffffff
  | p521 =>
      0x1ffffffffffffffffffffffffffffffffffffffffffffffffffffffffffffffffffffffffffffffffffffffffffffffffffffffffffffffffffffffffffffffffff

/-- The number of points in the group. -/
def order : Curve → Nat
  | p256 => 0xffffffff00000000ffffffffffffffffbce6faada7179e84f3b9cac2fc632551
  | p384 =>
      0xffffffffffffffffffffffffffffffffffffffffffffffffc7634d81f4372ddf581a0db248b0a77aecec196accc52973
  | p521 =>
      0x1fffffffffffffffffffffffffffffffffffffffffffffffffffffffffffffffffa51868783bf2f966b7fcc0148f709a5d03bb5c9b8899c47aebb6fb71e91386409

/-- The constant term of the curve's equation. -/
def constant : Curve → Nat
  | p256 => 0x5ac635d8aa3a93e7b3ebbd55769886bc651d06b0cc53b0f63bce3c3e27d2604b
  | p384 =>
      0xb3312fa7e23ee7e4988e056be3f82d19181d9c6efe8141120314088f5013875ac656398d8a2ed19d2a85c8edd3ec2aef
  | p521 =>
      0x051953eb9618e1c9a1f929a21a0b68540eea2da725b99b315f3b8b489918ef109e156193951ec7e937b1652c0bd3bb1bf073573df883d2c34f1ef451fd46b503f00

end Curve

/-- A point with two coordinates. -/
structure Point where
  x : Nat
  y : Nat
  deriving DecidableEq, Repr

namespace Elliptic

open Curve

def generator : Curve → Point
  | p256 =>
      ⟨0x6b17d1f2e12c4247f8bce6e563a440f277037d812deb33a0f4a13945d898c296,
        0x4fe342e2fe1a7f9b8ee7eb4a7c0f9e162bce33576b315ececbb6406837bf51f5⟩
  | p384 =>
      ⟨0xaa87ca22be8b05378eb1c71ef320ad746e1d3b628ba79b9859f741e082542a385502f25dbf55296c3a545e3872760ab7,
        0x3617de4a96262c6f5d9e98bf9292dc29f8f41dbd289a147ce9da3113b5f0b8c00a60b1ce1d7e819d7a431d7c90ea0e5f⟩
  | p521 =>
      ⟨0xc6858e06b70404e9cd9e3ecb662395b4429c648139053fb521f828af606b4d3dbaa14b5e77efe75928fe1dc127a2ffa8de3348b3c1856a429bf97e7e31c2e5bd66,
        0x11839296a789a3bc0045c8a5fb42c7d1bd998f54449579b446817afbd17273e662c97ee72995ef42640c550b9013fad0761353c7086a272c24088be94769fd16650⟩

/-- The right-hand side of the curve's equation. -/
def cubic (curve : Curve) (x : Nat) : Nat :=
  (x * x * x + 3 * (curve.field - x % curve.field) + curve.constant) % curve.field

/-- The point satisfies the curve's equation, with coordinates in the field. -/
def OnCurve (curve : Curve) (point : Point) : Prop :=
  point.x < curve.field ∧ point.y < curve.field
    ∧ point.y * point.y % curve.field = cubic curve point.x

instance (curve : Curve) (point : Point) : Decidable (OnCurve curve point) := by
  unfold OnCurve
  infer_instance

/-- A point as `(x / z ^ 2, y / z ^ 3)`; the neutral element has `z = 0`. -/
structure Projective where
  x : Nat
  y : Nat
  z : Nat

/-- The neutral element. -/
def Projective.zero : Projective :=
  ⟨1, 1, 0⟩

def double (curve : Curve) (a : Projective) : Projective :=
  let p := curve.field
  let delta := a.z * a.z % p
  let gamma := a.y * a.y % p
  let beta := a.x * gamma % p
  let alpha := 3 * (a.x + p - delta) * (a.x + delta) % p
  let x := (alpha * alpha + 8 * (p - beta)) % p
  let z := (2 * a.y * a.z) % p
  let y := (alpha * (4 * beta + p - x) + 8 * (p - gamma) * gamma) % p
  ⟨x, y, z⟩

/-- The sum of a point and one with two coordinates. -/
def add (curve : Curve) (a : Projective) (b : Point) : Projective :=
  let p := curve.field
  if a.z = 0 then ⟨b.x, b.y, 1⟩
  else
    let zz := a.z * a.z % p
    let h := (b.x * zz + p - a.x) % p
    let r := (b.y * zz % p * a.z + p - a.y) % p
    if h = 0 then
      if r = 0 then double curve a else Projective.zero
    else
      let hh := h * h % p
      let hhh := h * hh % p
      let v := a.x * hh % p
      let x := (r * r + (p - hhh) + 2 * (p - v)) % p
      let y := (r * (v + p - x) + (p - hhh) * a.y) % p
      ⟨x, y, a.z * h % p⟩

/-- A point with its two coordinates, unless it is the neutral element. -/
def affine? (curve : Curve) (a : Projective) : Option Point := do
  let p := curve.field
  let inverse ← if a.z = 0 then none else Modular.inverse? p a.z
  let square := inverse * inverse % p
  return ⟨a.x * square % p, a.y * (square * inverse % p) % p⟩

/-- The sum of `n` copies of a point, from the highest bit of `n` down. -/
def multiply (curve : Curve) (point : Point) (n : Nat) : Projective :=
  if n = 0 then Projective.zero
  else
    let twice := double curve (multiply curve point (n / 2))
    if n % 2 = 1 then add curve twice point else twice
termination_by n
decreasing_by omega

/-- The point `n` times the generator, unless it is the neutral element. -/
def base? (curve : Curve) (n : Nat) : Option Point :=
  affine? curve (multiply curve (generator curve) n)

/-- The uncompressed encoding: a four, then both coordinates. -/
def encode (curve : Curve) (point : Point) : Bytes :=
  0x04 :: (Bytes.fixed curve.width point.x ++ Bytes.fixed curve.width point.y)

/-- The compressed encoding: the parity of `y`, then `x`. -/
def encodeShort (curve : Curve) (point : Point) : Bytes :=
  (if point.y % 2 = 0 then 0x02 else 0x03) :: Bytes.fixed curve.width point.x

/-- The point, if it lies on the curve. -/
def checked? (curve : Curve) (point : Point) : Option Point :=
  if OnCurve curve point then some point else none

/-- The point with a given `x` whose `y` has the given parity. -/
def lift? (curve : Curve) (x parity : Nat) : Option Point :=
  let p := curve.field
  let root := Modular.pow p (cubic curve x) ((p + 1) / 4)
  let y := if root % 2 = parity then root else p - root
  checked? curve ⟨x, y⟩

/-- The point that bytes encode in either form; the neutral element has no encoding here. -/
def decode? (curve : Curve) (bytes : Bytes) : Option Point :=
  match bytes with
  | [] => none
  | form :: rest =>
      if form = 0x04 ∧ rest.length = 2 * curve.width then
        checked? curve
          ⟨Bytes.toNat (rest.take curve.width), Bytes.toNat (rest.drop curve.width)⟩
      else if (form = 0x02 ∨ form = 0x03) ∧ rest.length = curve.width then
        lift? curve (Bytes.toNat rest) (form.toNat - 2)
      else none

theorem checked?_eq_some_iff
    {curve : Curve} {a b : Point} :
    checked? curve a = some b ↔ a = b ∧ OnCurve curve b := by
  unfold checked?
  split
  · next h =>
    simp only [Option.some.injEq]
    exact ⟨fun e => ⟨e, e ▸ h⟩, fun e => e.1⟩
  · next h =>
    simp only [reduceCtorEq, false_iff]
    exact fun e => h (e.1 ▸ e.2)

theorem onCurve_of_decode?
    {curve : Curve} {bytes : Bytes} {point : Point}
    (h : decode? curve bytes = some point) :
    OnCurve curve point := by
  unfold decode? at h
  split at h
  · cases h
  · split at h
    · exact (checked?_eq_some_iff.1 h).2
    · split at h
      · exact (checked?_eq_some_iff.1 h).2
      · cases h

theorem field_lt
    (curve : Curve) :
    curve.field < Nat.pow 256 curve.width := by
  cases curve <;> decide +kernel

theorem decode?_encode
    {curve : Curve} {point : Point}
    (h : OnCurve curve point) :
    decode? curve (encode curve point) = some point := by
  have hx : point.x < Nat.pow 256 curve.width := Nat.lt_trans h.1 (field_lt curve)
  have hy : point.y < Nat.pow 256 curve.width := Nat.lt_trans h.2.1 (field_lt curve)
  have hlen : (Bytes.fixed curve.width point.x ++ Bytes.fixed curve.width point.y).length
      = 2 * curve.width := by
    simp
    omega
  have hl : (Bytes.fixed curve.width point.x).length = curve.width := by simp
  simp only [decode?, encode]
  rw [if_pos ⟨trivial, hlen⟩]
  have ht : List.take curve.width
      (Bytes.fixed curve.width point.x ++ Bytes.fixed curve.width point.y)
      = Bytes.fixed curve.width point.x := List.take_left' hl
  have hd : List.drop curve.width
      (Bytes.fixed curve.width point.x ++ Bytes.fixed curve.width point.y)
      = Bytes.fixed curve.width point.y := List.drop_left' hl
  rw [ht, hd, Bytes.toNat_fixed hx, Bytes.toNat_fixed hy]
  exact checked?_eq_some_iff.2 ⟨rfl, h⟩

end Elliptic
end WorkloadIdentity
