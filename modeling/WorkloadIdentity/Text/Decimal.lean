/-!
# Decimal numerals

Natural numbers in decimal digits.

* `spelled_digits`: the digits of a number spell it.
-/

namespace WorkloadIdentity
namespace Decimal

/-- The character of a digit below ten. -/
def digit (value : Nat) : Char :=
  Char.ofNat (48 + value)

/-- Whether a character is a decimal digit. -/
def isDigit (c : Char) : Bool :=
  '0' ≤ c && c ≤ '9'

/-- The digits of a positive number, before the digits already collected. -/
def digitsOnto (n : Nat) (after : List Char) : List Char :=
  if n = 0 then after else digitsOnto (n / 10) (digit (n % 10) :: after)
termination_by n
decreasing_by omega

/-- The digits of a number, without leading zeros. -/
def digits (n : Nat) : List Char :=
  if n = 0 then ['0'] else digitsOnto n []

/-- The number that digits spell after those already read. -/
def spelledFrom (total : Nat) (chars : List Char) : Nat :=
  chars.foldl (fun total c => total * 10 + (c.toNat - 48)) total

/-- The number that digits spell. -/
def spelled (chars : List Char) : Nat :=
  spelledFrom 0 chars

/-- The number that a text of decimal digits spells, if it is one. -/
def value? (chars : List Char) : Option Nat :=
  if chars ≠ [] ∧ chars.all isDigit then some (spelled chars) else none

def text (n : Nat) : String :=
  String.ofList (digits n)

/-- A whole number fits into 64 bits, one of them for the sign. -/
def fits64 (n : Int) : Bool :=
  Int64.minValue.toInt ≤ n && n ≤ Int64.maxValue.toInt

/-- The text of a whole number, if it fits into 64 bits. -/
def text64? (negative : Bool) (n : Nat) : Option String :=
  let signed : Int := if negative then -(n : Int) else n
  if fits64 signed then some (toString signed) else none

theorem toNat_digit
    {value : Nat}
    (h : value < 10) :
    (digit value).toNat = 48 + value := by
  have hv : (48 + value).isValidChar := Or.inl (by omega)
  rw [digit, Char.ofNat, dif_pos hv]
  rfl

theorem spelledFrom_digitsOnto
    (n : Nat) (after : List Char) :
    spelled (digitsOnto n after) = spelledFrom n after := by
  induction n using Nat.strongRecOn generalizing after with
  | _ n ih =>
      rw [digitsOnto]
      split
      · next h => rw [h, spelled]
      · next h =>
        rw [ih (n / 10) (by omega)]
        simp only [spelledFrom, List.foldl_cons]
        rw [toNat_digit (by omega)]
        congr 1
        omega

theorem spelled_digits
    (n : Nat) :
    spelled (digits n) = n := by
  unfold digits
  split
  · next h => subst h; decide
  · rw [spelledFrom_digitsOnto]
    rfl

end Decimal
end WorkloadIdentity
