import WorkloadIdentity.Text.Hex
import WorkloadIdentity.Text.Printable

/-!
# Quoted text

Texts and characters in quotation marks, for diagnostic output.  What cannot be shown is written
by its number.
-/

namespace WorkloadIdentity
namespace Quoted

/-- The digits of a number in lower-case hexadecimal, before those already collected. -/
def hexOnto (n : Nat) (after : List Char) : List Char :=
  if n < 16 then Hex.digit n :: after else hexOnto (n / 16) (Hex.digit (n % 16) :: after)
termination_by n
decreasing_by omega

/-- How a character is written between the given quotation marks. -/
def escaped (mark c : Char) : List Char :=
  if c = mark ∨ c = '\\' then ['\\', c]
  else if c.toNat = 0 then ['\\', '0']
  else if c = '\t' then ['\\', 't']
  else if c = '\r' then ['\\', 'r']
  else if c = '\n' then ['\\', 'n']
  else if isPrintable c then [c]
  else '\\' :: 'u' :: '\x7b' :: hexOnto c.toNat ['\x7d']

/-- A text in double quotation marks. -/
def text (string : String) : String :=
  String.ofList ('"' :: (string.toList.flatMap (escaped '"') ++ ['"']))

/-- A character in single quotation marks. -/
def char (c : Char) : String :=
  String.ofList ('\'' :: (escaped '\'' c ++ ['\'']))

end Quoted
end WorkloadIdentity
