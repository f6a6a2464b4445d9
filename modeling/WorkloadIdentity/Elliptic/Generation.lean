import WorkloadIdentity.Elliptic.Signature
import WorkloadIdentity.Entropy

/-!
# Generation of elliptic-curve keys

A private number is drawn again until it lies in the range of the group.
-/

namespace WorkloadIdentity
namespace Elliptic

/-- A fresh key on a curve, within a number of tries. -/
def generate? (curve : Curve) : (tries : Nat) → Random (Option (PrivateKey curve))
  | 0 => return none
  | tries + 1 => do
      let bytes ← Random.bytes curve.width
      match PrivateKey.ofScalar? curve (truncate curve bytes) with
      | some key => return some key
      | none => generate? curve tries

end Elliptic
end WorkloadIdentity
