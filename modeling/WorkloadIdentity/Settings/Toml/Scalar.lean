import WorkloadIdentity.Text.CodePoint
import WorkloadIdentity.Text.Real

/-!
# TOML scalars

Strings, numbers, truth values and times, each read as the text that a setting takes from it.
-/

namespace WorkloadIdentity
namespace Toml

open Reader

/-- A space or a tab. -/
def isBlank (c : Char) : Bool :=
  c == ' ' || c == '\t'

/-- A character of a comment or of a literal string: no control but the tab. -/
def isPlain (c : Char) : Bool :=
  c == '\t' || (0x20 ≤ c.toNat && c.toNat ≠ 0x7F)

def lineEnd : Reader Unit :=
  either (char '\n') (word "\r\n")

def escape : Reader Char := do
  char '\\'
  match ← any with
  | 'b' => return '\x08'
  | 't' => return '\t'
  | 'n' => return '\n'
  | 'f' => return '\x0c'
  | 'r' => return '\r'
  | '"' => return '"'
  | '\\' => return '\\'
  | 'u' => CodePoint.reader 4
  | 'U' => CodePoint.reader 8
  | _ => fun _ => none

/-- A string in double quotation marks. -/
def basicString : Reader (List Char) := do
  char '"'
  let chars ← many (either escape (one fun c => isPlain c && c != '"' && c != '\\'))
  char '"'
  return chars

/-- A string in single quotation marks, which has no escapes. -/
def literalString : Reader (List Char) := do
  char '\''
  let chars ← run fun c => isPlain c && c != '\''
  char '\''
  return chars

/-- A backslash at the end of a line, with all blanks and line ends after it. -/
def joinedLines : Reader (List Char) := do
  char '\\'
  let _ ← run isBlank
  lineEnd
  let _ ← many (either lineEnd (do let _ ← run1 isBlank))
  return []

/-- A line end within a string. -/
def brokenLine : Reader (List Char) := do
  lineEnd
  return ['\n']

/-- Up to two quotation marks that do not end a string in three of them. -/
def loneMarks (mark : Char) : Reader (List Char) := do
  let marks := (← rest).takeWhile (· == mark)
  check (marks.length = 1 ∨ marks.length = 2)
  run (· == mark)

/-- The three marks at the end of a string, with up to two marks before them that belong to it. -/
def closingMarks (mark : Char) : Reader (List Char) := do
  let marks := ((← rest).takeWhile (· == mark)).take 5
  check (3 ≤ marks.length)
  let _ ← marks.mapM fun _ => char mark
  return marks.drop 3

/-- A string over several lines between three marks, made of the given pieces. -/
def longString (mark : Char) (piece : Reader (List Char)) : Reader (List Char) := do
  word (String.ofList [mark, mark, mark])
  let _ ← perhaps lineEnd
  let pieces ← many (either piece (either brokenLine (loneMarks mark)))
  return pieces.flatten ++ (← closingMarks mark)

/-- A string over several lines in double quotation marks. -/
def longBasicString : Reader (List Char) :=
  longString '"' (either joinedLines (either (do return [← escape])
    (run1 fun c => isPlain c && c != '"' && c != '\\')))

/-- A string over several lines in single quotation marks. -/
def longLiteralString : Reader (List Char) :=
  longString '\'' (run1 fun c => isPlain c && c != '\'')

def string : Reader (List Char) := do
  if ← sees "\"\"\"" then longBasicString
  else if ← sees "'''" then longLiteralString
  else either basicString literalString

/-- Digits of a kind, with single underscores between them. -/
def grouped (isDigit : Char → Bool) : Reader (List Char) := do
  let first ← one isDigit
  let more ← many (do
    let _ ← perhaps (char '_')
    one isDigit)
  return first :: more

/-- The optional sign of a number: whether it is negative. -/
def sign : Reader Bool := do
  match ← peek? with
  | some '-' => do char '-'; return true
  | some '+' => do char '+'; return false
  | _ => return false

/-- The digits of a decimal number, which has no zero in front. -/
def whole : Reader (List Char) := do
  let digits ← grouped Decimal.isDigit
  check (digits.head? ≠ some '0' ∨ digits.length = 1)
  return digits

/-- A number in another base, after its mark. -/
def based (mark : String) (base : Nat) (isDigit : Char → Bool) : Reader String := do
  word mark
  let digits ← grouped isDigit
  let values ← given (digits.mapM Hex.value?)
  given (Decimal.text64? false (values.foldl (fun total value => total * base + value) 0))

def integer : Reader String :=
  either (based "0x" 16 fun c => (Hex.value? c).isSome)
    (either (based "0o" 8 fun c => '0' ≤ c && c ≤ '7')
      (either (based "0b" 2 fun c => c == '0' || c == '1')
        (do
          let negative ← sign
          given (Decimal.text64? negative (Decimal.spelled (← whole))))))

/-- The digits after a point. -/
def fraction : Reader (List Char) := do
  char '.'
  grouped Decimal.isDigit

def exponent : Reader Int := do
  either (char 'e') (char 'E')
  let negative ← sign
  let n : Int := Decimal.spelled (← grouped Decimal.isDigit)
  return if negative then -n else n

/-- A number with a point or an exponent.  It may be too small to be told from zero, but no
positive one too large. -/
def float : Reader String := do
  let negative ← sign
  let digits ← whole
  let places ← perhaps fraction
  let power ← perhaps exponent
  check (places.isSome ∨ power.isSome)
  let after := places.getD []
  let value := Real.ofDecimal negative (Decimal.spelled (digits ++ after))
    (power.getD 0 - after.length)
  check (value ≠ .infinite false)
  return value.text

/-- A number that is not finite. -/
def special : Reader String := do
  let negative ← sign
  either (do word "inf"; return (Real.infinite negative).text)
    (do word "nan"; return Real.undefined.text)

/-- A number of exactly so many digits, between two bounds. -/
def field (count low high : Nat) : Reader Nat := do
  let digits ← (List.replicate count ()).mapM fun _ => one Decimal.isDigit
  let n := Decimal.spelled digits
  check (low ≤ n ∧ n ≤ high)
  return n

/-- The number of days of a month. -/
def daysOf (year month : Nat) : Nat :=
  let isLeap := year % 4 = 0 ∧ (year % 100 ≠ 0 ∨ year % 400 = 0)
  if month = 2 then (if isLeap then 29 else 28)
  else if month = 4 ∨ month = 6 ∨ month = 9 ∨ month = 11 then 30
  else 31

/-- A number in a number of digits. -/
def padded (count n : Nat) : List Char :=
  let digits := Decimal.digits n
  List.replicate (count - digits.length) '0' ++ digits

/-- A date, as it is written. -/
def date : Reader (List Char) := do
  let year ← field 4 0 9999
  char '-'
  let month ← field 2 1 12
  char '-'
  let day ← field 2 1 (daysOf year month)
  return padded 4 year ++ '-' :: padded 2 month ++ '-' :: padded 2 day

/-- A time of the day, with at most nine digits behind the seconds and no zeros at their end. -/
def time : Reader (List Char) := do
  let hour ← field 2 0 23
  char ':'
  let minute ← field 2 0 59
  char ':'
  let second ← field 2 0 60
  let places ← perhaps (do char '.'; run1 Decimal.isDigit)
  let kept := ((((places.getD []).take 9).reverse).dropWhile (· == '0')).reverse
  return padded 2 hour ++ ':' :: padded 2 minute ++ ':' :: padded 2 second
    ++ (if kept = [] then [] else '.' :: kept)

/-- The offset of a time from universal time. -/
def offset : Reader (List Char) :=
  either (do let _ ← one fun c => c == 'Z' || c == 'z'; return ['Z'])
    (do
      let mark ← one fun c => c == '+' || c == '-'
      let hour ← field 2 0 23
      char ':'
      let minute ← field 2 0 59
      return mark :: padded 2 hour ++ ':' :: padded 2 minute)

/-- A date, a time, or both. -/
def moment : Reader String :=
  either
    (do
      let day ← date
      let clock ← perhaps (do
        let _ ← one fun c => c == 'T' || c == 't' || c == ' '
        let clock ← time
        return 'T' :: clock ++ (← perhaps offset).getD [])
      return String.ofList (day ++ clock.getD []))
    (do return String.ofList (← time))

/-- A scalar that is no string, as the text of its value. -/
def bare : Reader String :=
  either moment (either float (either integer (either special
    (either (do word "true"; return "true") (do word "false"; return "false")))))

end Toml
end WorkloadIdentity
