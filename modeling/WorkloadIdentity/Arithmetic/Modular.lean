/-!
# Arithmetic modulo a number

Powers by repeated squaring, and inverses by the extended Euclidean algorithm.

* `pow_eq`: the power is the one that `Nat.pow` and `%` give.
* `mul_inverse?`: an inverse that is returned is one.
-/

namespace WorkloadIdentity
namespace Modular

/-- `total * base ^ exponent` modulo `modulus`, one bit of the exponent at a time. -/
def powLoop (modulus exponent base total : Nat) : Nat :=
  if exponent = 0 then total
  else
    powLoop modulus (exponent / 2) (base * base % modulus)
      (if exponent % 2 = 1 then total * base % modulus else total)
termination_by exponent
decreasing_by omega

/-- `base ^ exponent` modulo `modulus`. -/
def pow (modulus base exponent : Nat) : Nat :=
  powLoop modulus exponent (base % modulus) (1 % modulus)

/-- The Euclidean algorithm on two remainders, each with its coefficient of the first number. -/
def euclid (r s : Nat) (x y : Int) : Nat × Int :=
  if s = 0 then (r, x)
  else euclid s (r % s) y (x - (r / s : Nat) * y)
termination_by s
decreasing_by exact Nat.mod_lt _ (by omega)

/-- The inverse of `n` modulo `modulus`, if there is one. -/
def inverse? (modulus n : Nat) : Option Nat :=
  let result := (euclid (n % modulus) modulus 1 0).2.emod modulus |>.toNat
  if modulus = 0 then none
  else if n * result % modulus = 1 % modulus then some result
  else none

def sub (modulus a b : Nat) : Nat :=
  (a % modulus + (modulus - b % modulus)) % modulus

theorem powLoop_eq
    (modulus exponent base total : Nat)
    (h : total % modulus = total) :
    powLoop modulus exponent base total = total * Nat.pow base exponent % modulus := by
  simp only [Nat.pow_eq]
  induction exponent using Nat.strongRecOn generalizing base total with
  | _ exponent ih =>
      rw [powLoop]
      split
      · next h' => simp [h', h]
      · next h' =>
        rw [ih (exponent / 2) (by omega)]
        · have hsq : Nat.pow (base * base % modulus) (exponent / 2) % modulus
              = Nat.pow base (2 * (exponent / 2)) % modulus := by
            simp only [Nat.pow_eq]
            rw [← Nat.pow_mod, Nat.pow_mul, Nat.pow_two]
          simp only [Nat.pow_eq] at hsq
          split
          · next hodd =>
            have he : exponent = 2 * (exponent / 2) + 1 := by omega
            rw [Nat.mul_mod, hsq, Nat.mod_mod, ← Nat.mul_mod, Nat.mul_assoc]
            conv =>
              rhs
              rw [he, Nat.pow_succ, Nat.mul_comm _ base]
          · next heven =>
            have he : exponent = 2 * (exponent / 2) := by omega
            rw [Nat.mul_mod, hsq, ← Nat.mul_mod]
            conv =>
              rhs
              rw [he]
        · split
          · exact Nat.mod_mod _ _
          · exact h

theorem pow_eq
    (modulus base exponent : Nat) :
    pow modulus base exponent = Nat.pow base exponent % modulus := by
  rw [pow, powLoop_eq _ _ _ _ (Nat.mod_mod _ _), Nat.mul_mod, Nat.mod_mod, ← Nat.mul_mod,
    Nat.one_mul, Nat.pow_eq, Nat.pow_eq, ← Nat.pow_mod]

theorem mul_inverse?
    {modulus n inverse : Nat}
    (h : inverse? modulus n = some inverse) :
    n * inverse % modulus = 1 % modulus := by
  simp only [inverse?] at h
  split at h
  · cases h
  · split at h
    · next hp => cases h; exact hp
    · cases h

end Modular
end WorkloadIdentity
