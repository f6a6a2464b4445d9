import WorkloadIdentity.Text.Hex
import WorkloadIdentity.Text.Reader

/-!
# Characters by their numbers

A character may be written as its number in hexadecimal digits.
-/

namespace WorkloadIdentity
namespace CodePoint

/-- The character with a number, if there is one. -/
def char? (code : Nat) : Option Char :=
  if code.isValidChar then some (Char.ofNat code) else none

/-- The number that hexadecimal digits of either case spell. -/
def spelled? (digits : List Char) : Option Nat := do
  let values ← digits.mapM Hex.value?
  return values.foldl (fun total value => total * 16 + value) 0

/-- A number of exactly so many hexadecimal digits. -/
def number (count : Nat) : Reader Nat := do
  let digits ← (List.replicate count ()).mapM fun _ => Reader.any
  Reader.given (spelled? digits)

/-- A character by its number in exactly so many hexadecimal digits. -/
def reader (count : Nat) : Reader Char := do
  Reader.given (char? (← number count))

end CodePoint
end WorkloadIdentity
