import WorkloadIdentity.Text.Decimal
import WorkloadIdentity.Text.Reader

/-!
# Real numbers in text

Numbers with a point or an exponent are rounded to the nearest number of 53 significant bits and
written with the fewest decimal digits that are rounded to the same number.

* `Binary.ofRatio?` rounds a quotient of natural numbers; a tie goes to the even neighbour.
* `Binary.digits` searches the decimal grids from the coarsest on; of two hits the nearer wins.
-/

namespace WorkloadIdentity

/-- A number that is a multiple of a power of two. -/
structure Binary where
  mantissa : Nat
  exponent : Int
  deriving DecidableEq, Repr

/-- The outcome of reading a number. -/
inductive Real
  | finite (negative : Bool) (value : Binary)
  | infinite (negative : Bool)
  | undefined
  deriving DecidableEq, Repr

namespace Binary

def minExponent : Int := -1074

/-- The exponent of the largest number. -/
def maxExponent : Int := 971

/-- Numbers have mantissas below this bound, which is the power of two with exponent 53. -/
def precision : Nat := 0x20000000000000

/-- The quotient rounded to a natural number; a half goes to the even neighbour. -/
def roundQuotient (num den : Nat) : Nat :=
  let quotient := num / den
  let rest := num % den
  if den < 2 * rest ∨ (2 * rest = den ∧ quotient % 2 = 1) then quotient + 1 else quotient

/-- The quotient in units of a power of two, as a quotient. -/
def inUnits (num den : Nat) (exponent : Int) : Nat × Nat :=
  (num * Nat.pow 2 (-exponent).toNat, den * Nat.pow 2 exponent.toNat)

/-- The nearest number to a quotient; there is none beyond the largest number. -/
def ofRatio? (num den : Nat) : Option Binary :=
  if num = 0 then some ⟨0, 0⟩
  else
    let estimate : Int := max minExponent ((Nat.log2 num : Int) - Nat.log2 den - 53)
    let (n, d) := inUnits num den estimate
    let exponent := if precision ≤ n / d then estimate + 1 else estimate
    let (n, d) := inUnits num den exponent
    let mantissa := roundQuotient n d
    let (mantissa, exponent) :=
      if mantissa = precision then (precision / 2, exponent + 1) else (mantissa, exponent)
    if maxExponent < exponent then none else some ⟨mantissa, exponent⟩

/-- The number as a quotient. -/
def ratio (value : Binary) : Nat × Nat :=
  (value.mantissa * Nat.pow 2 value.exponent.toNat, Nat.pow 2 (-value.exponent).toNat)

/-- The decimal number `digits * 10 ^ power` is rounded to the value. -/
def readsBack (value : Binary) (digits : Nat) (power : Int) : Bool :=
  ofRatio? (digits * Nat.pow 10 power.toNat) (Nat.pow 10 (-power).toNat) == some value

/-- The hit on one decimal grid, if there is one: the nearer of the value's two neighbours. -/
def onGrid? (value : Binary) (power : Int) : Option Nat :=
  let (num, den) := value.ratio
  let n := num * Nat.pow 10 (-power).toNat
  let d := den * Nat.pow 10 power.toNat
  let below := n / d
  let hits := [below, below + 1].filter fun digits => value.readsBack digits power
  match hits with
  | [a, b] => some (if 2 * n ≤ (a + b) * d then a else b)
  | [a] => some a
  | _ => none

/-- The fewest digits that are rounded to the value, with their power of ten. -/
def digits (value : Binary) : Nat × Int :=
  let (num, den) := value.ratio
  let size : Int := ((Nat.log2 num : Int) - Nat.log2 den + 1) * 30103 / 100000 + 1
  let found := (List.range 20).findSome? fun (i : Nat) =>
    let power := size - (i : Nat)
    (value.onGrid? power).map fun digits => (digits, power)
  found.getD (num, 0)

/-- The product of two numbers, rounded. -/
def mul? (a b : Binary) : Option Binary :=
  ofRatio? (a.ratio.1 * b.ratio.1) (a.ratio.2 * b.ratio.2)

/-- The quotient of two numbers, rounded. -/
def div? (a b : Binary) : Option Binary :=
  ofRatio? (a.ratio.1 * b.ratio.2) (a.ratio.2 * b.ratio.1)

end Binary

namespace Real

/-- The number `digits * 10 ^ power`, rounded.  Numbers far beyond the range on either side are
not worked out. -/
def ofDecimal (negative : Bool) (digits : Nat) (power : Int) : Real :=
  let size : Int := (Decimal.digits digits).length + power
  if digits = 0 ∨ size < -400 then finite negative ⟨0, 0⟩
  else if 400 < size then infinite negative
  else
    match Binary.ofRatio? (digits * Nat.pow 10 power.toNat) (Nat.pow 10 (-power).toNat) with
    | none => infinite negative
    | some value => finite negative value

/-- Digits with the point in its place; zeros fill what the digits leave open. -/
def positional (digits : Nat) (power : Int) : String :=
  let chars := Decimal.digits digits
  if 0 ≤ power then String.ofList (chars ++ List.replicate power.toNat '0')
  else
    let places := (-power).toNat
    let chars := List.replicate (places + 1 - chars.length) '0' ++ chars
    let whole := chars.take (chars.length - places)
    String.ofList (whole ++ '.' :: chars.drop (chars.length - places))

/-- The number without an exponent. -/
def text : Real → String
  | finite negative value =>
      let sign := if negative then "-" else ""
      if value.mantissa = 0 then sign ++ "0"
      else sign ++ positional value.digits.1 value.digits.2
  | infinite negative => if negative then "-inf" else "inf"
  | undefined => "NaN"

/-- Whether a sign is there and whether it is a minus sign. -/
def sign : Reader (Option Bool) :=
  Reader.perhaps (do return (← Reader.one fun c => c == '+' || c == '-') == '-')

def exponent : Reader Int := do
  Reader.either (Reader.char 'e') (Reader.char 'E')
  let negative ← sign
  let n : Int := Decimal.spelled (← Reader.run1 Decimal.isDigit)
  return if negative = some true then -n else n

/-- Digits with or without a point between or beside them, and an exponent or none. -/
def decimal (negative : Bool) : Reader Real := do
  let whole ← Reader.run Decimal.isDigit
  let places ← Reader.perhaps (do Reader.char '.'; Reader.run Decimal.isDigit)
  let after := places.getD []
  Reader.check (whole ++ after ≠ [])
  let power ← Reader.perhaps exponent
  return ofDecimal negative (Decimal.spelled (whole ++ after)) (power.getD 0 - after.length)

/-- The number that a text is: a decimal, or a word for what is no finite number. -/
def ofChars? (chars : List Char) : Option Real :=
  Reader.all? (do
    let negative := (← sign) = some true
    let word := String.ofList ((← Reader.rest).map Char.toLower)
    if word = "inf" ∨ word = "infinity" then
      let _ ← Reader.run fun _ => true
      return infinite negative
    else if word = "nan" then
      let _ ← Reader.run fun _ => true
      return undefined
    else decimal negative) chars

end Real
end WorkloadIdentity
