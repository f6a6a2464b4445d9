import WorkloadIdentity.Json.Value
import WorkloadIdentity.Text.Real

/-!
# JSON numbers

How a number is read from its spelling, when it stands for a natural number, and when it is too
large for a double.

* `toNat?_ofNat`: the plain spelling of a natural number stands for it.
-/

namespace WorkloadIdentity
namespace Numeral

/-- The characters that a number is made of. -/
def isChar (c : Char) : Bool :=
  Decimal.isDigit c || c == '-' || c == '+' || c == '.' || c == 'e' || c == 'E'

def ofNat (n : Nat) : Numeral :=
  { whole := Decimal.digits n }

/-- The natural number that a numeral without sign, point and exponent stands for. -/
def toNat? (numeral : Numeral) : Option Nat :=
  if numeral.negative ∨ numeral.fraction ≠ [] ∨ numeral.exponent ≠ none then none
  else some (Decimal.spelled numeral.whole)

/-- The exponent that follows the letter: an optional sign, then digits. -/
def exponent? (chars : List Char) : Option Int :=
  match chars with
  | '-' :: digits => (Decimal.value? digits).map fun n => -(n : Int)
  | '+' :: digits => (Decimal.value? digits).map Int.ofNat
  | digits => (Decimal.value? digits).map Int.ofNat

/-- The optional exponent at the end of a number. -/
def tail? (numeral : Numeral) : List Char → Option Numeral
  | [] => some numeral
  | c :: rest =>
      if c = 'e' ∨ c = 'E' then
        (exponent? rest).map fun n => { numeral with exponent := some n }
      else none

/-- A number without its sign.  A zero stands before the point only alone, and a point has digits
on both sides. -/
def unsigned? (negative : Bool) (chars : List Char) : Option Numeral :=
  let whole := chars.takeWhile Decimal.isDigit
  if whole = [] ∨ (whole.head? = some '0' ∧ whole.length ≠ 1) then none
  else
    match chars.dropWhile Decimal.isDigit with
    | '.' :: rest =>
        let fraction := rest.takeWhile Decimal.isDigit
        if fraction = [] then none
        else tail? { negative, whole, fraction } (rest.dropWhile Decimal.isDigit)
    | rest => tail? { negative, whole } rest

/-- The number that the characters spell. -/
def ofChars? : List Char → Option Numeral
  | '-' :: rest => unsigned? true rest
  | chars => unsigned? false chars

def toChars (numeral : Numeral) : List Char :=
  let sign := if numeral.negative then ['-'] else []
  let fraction := if numeral.fraction = [] then [] else '.' :: numeral.fraction
  let exponent :=
    match numeral.exponent with
    | none => []
    | some (.ofNat n) => 'e' :: Decimal.digits n
    | some (.negSucc n) => 'e' :: '-' :: Decimal.digits (n + 1)
  sign ++ numeral.whole ++ fraction ++ exponent

/-- The leading digits as a 64-bit number, as many as fit, and how many are left out. -/
def significand (total : Nat) : List Char → Nat × Nat
  | [] => (total, 0)
  | c :: rest =>
      let next := total * 10 + (c.toNat - 48)
      if next < UInt64.size then significand next rest else (total, rest.length + 1)

/-- The largest power of ten that is multiplied or divided by at once. -/
def maxPower : Nat := 308

/-- A power of ten, rounded. -/
def powerOfTen? (exponent : Nat) : Option Binary :=
  Binary.ofRatio? (Nat.pow 10 exponent) 1

/-- The value divided by a power of ten, in steps that are rounded one by one. -/
def divideBy? (value : Binary) (exponent : Nat) : Option Binary :=
  if value.mantissa = 0 then some value
  else if exponent ≤ maxPower then do value.div? (← powerOfTen? exponent)
  else do
    let value ← value.div? (← powerOfTen? maxPower)
    divideBy? value (exponent - maxPower)
termination_by exponent
decreasing_by
  have : 0 < maxPower := by decide
  omega

/-- The value times a power of ten; there is none beyond the largest number. -/
def multiplyBy? (value : Binary) (exponent : Nat) : Option Binary :=
  if value.mantissa = 0 then some value
  else if exponent ≤ maxPower then do value.mul? (← powerOfTen? exponent)
  else none

/-- The value of a number without its sign.  Its leading digits are rounded first and then
multiplied or divided by the rounded power of ten. -/
def value? (numeral : Numeral) : Option Binary := do
  let (total, omitted) := significand 0 (numeral.whole ++ numeral.fraction)
  let exponent : Int := omitted - numeral.fraction.length + numeral.exponent.getD 0
  let value ← Binary.ofRatio? total 1
  if exponent < 0 then divideBy? value exponent.natAbs else multiplyBy? value exponent.natAbs

/-- The number is within the range of doubles. -/
def isFinite (numeral : Numeral) : Bool :=
  numeral.value?.isSome

@[simp] theorem toNat?_ofNat
    (n : Nat) :
    (ofNat n).toNat? = some n := by
  simp [ofNat, toNat?, Decimal.spelled_digits]

end Numeral
end WorkloadIdentity
