import WorkloadIdentity.Settings.Table
import WorkloadIdentity.Text.Blank
import WorkloadIdentity.Text.CodePoint
import WorkloadIdentity.Text.Real

/-!
# Settings in JSON5

JSON with comments, names without quotation marks, texts in single ones, commas at the end and
more forms of numbers.
-/

namespace WorkloadIdentity
namespace Json5

open Reader

def isLineEnd (c : Char) : Bool :=
  c == '\n' || c == '\r' || c == '\u2028' || c == '\u2029'

def isSpace (c : Char) : Bool :=
  (isBlank c && c != '\u0085') || c == '\uFEFF'

/-- Characters up to a mark, which is taken too. -/
def upTo (mark : String) : Reader Unit := do
  let _ ← many (do
    check (!(← sees mark))
    any)
  word mark

/-- White space and comments. -/
def gap : Reader Unit := do
  let _ ← many (either (do let _ ← run1 isSpace)
    (either (do word "/*"; upTo "*/") (do word "//"; let _ ← run fun c => !isLineEnd c)))

/-- What a reader finds, with a gap behind it. -/
def lexeme {α : Type} (reader : Reader α) : Reader α := do
  let found ← reader
  gap
  return found

/-- The character of a number that two halves spell, or of one that is no half. -/
def unit : Reader Char := do
  let high ← CodePoint.number 4
  if 0xD800 ≤ high ∧ high < 0xDC00 then
    word "\\u"
    let low ← CodePoint.number 4
    check (0xDC00 ≤ low ∧ low < 0xE000)
    given (CodePoint.char? (0x10000 + (high - 0xD800) * 0x400 + (low - 0xDC00)))
  else given (CodePoint.char? high)

def escape : Reader (List Char) := do
  char '\\'
  match ← any with
  | 'b' => return ['\x08']
  | 'f' => return ['\x0c']
  | 'n' => return ['\n']
  | 'r' => return ['\r']
  | 't' => return ['\t']
  | 'v' => return ['\x0b']
  | '0' => return ['\x00']
  | 'x' => return [← CodePoint.reader 2]
  | 'u' => return [← unit]
  | '\r' =>
      let _ ← perhaps (char '\n')
      return []
  | c =>
      check (!Decimal.isDigit c)
      return if isLineEnd c then [] else [c]

/-- A text between two of a mark. -/
def textIn (mark : Char) : Reader String := do
  char mark
  let pieces ← many (either escape
    (do return [← one fun c => c != mark && c != '\\' && !isLineEnd c]))
  char mark
  return String.ofList pieces.flatten

def text : Reader String :=
  either (textIn '"') (textIn '\'')

/-- A character that a name may begin with; beyond ASCII, any that is not white space. -/
def startsName (c : Char) : Bool :=
  c.isAlpha || c == '$' || c == '_' || (0x80 ≤ c.toNat && !isSpace c)

def name : Reader String := do
  let escaped : Reader Char := do word "\\u"; CodePoint.reader 4
  let first ← either (one startsName) escaped
  let more ← many (either (one fun c => startsName c || Decimal.isDigit c) escaped)
  return String.ofList (first :: more)

/-- The digits of a decimal number before its point; the only number that begins with zero is
zero. -/
def wholeDigits : Reader (List Char) := do
  let digits ← run1 Decimal.isDigit
  check (digits.head? ≠ some '0' ∨ digits.length = 1)
  return digits

def decimal (negative : Bool) : Reader String := do
  let digits ← perhaps wholeDigits
  let places ← perhaps (do char '.'; run Decimal.isDigit)
  check (digits.isSome ∨ (places.getD []) ≠ [])
  let power ← perhaps Real.exponent
  let whole := digits.getD []
  if places = none ∧ power = none then given (Decimal.text64? negative (Decimal.spelled whole))
  else
    let after := places.getD []
    match Real.ofDecimal negative (Decimal.spelled (whole ++ after))
        (power.getD 0 - after.length) with
    | .finite negative value => return (Real.finite negative value).text
    | _ => fun _ => none

/-- A number.  One in base sixteen has no sign and at most 32 bits; a plus sign does not stand in
front of one that is not finite. -/
def number : Reader String := do
  let sign ← Real.sign
  let negative := sign = some true
  if (← sees "0x") ∨ (← sees "0X") then
    check (sign = none)
    let _ ← any
    let _ ← any
    let digits ← run1 fun c => (Hex.value? c).isSome
    let n ← given (CodePoint.spelled? digits)
    check (n < UInt32.size)
    return Decimal.text n
  else if ← sees "Infinity" then
    check (sign ≠ some false)
    word "Infinity"
    return (Real.infinite negative).text
  else if ← sees "NaN" then
    check (sign ≠ some false)
    word "NaN"
    return Real.undefined.text
  else decimal negative

/-- The values of a list between two marks; a comma may stand behind the last. -/
def listIn {α : Type} (opening closing : Char) (item : Reader α) : Reader (List α) := do
  lexeme (char opening)
  let found ←
    match ← perhaps item with
    | none => pure []
    | some first => do
        let more ← many (do lexeme (char ','); item)
        let _ ← perhaps (lexeme (char ','))
        pure (first :: more)
  lexeme (char closing)
  return found

/-- A value with a gap behind it, in which values are nested less than so deep. -/
def value : (depth : Nat) → Reader Content
  | 0 => fun _ => none
  | depth + 1 => do
      match ← peek? with
      | some '[' =>
          let _ ← listIn '[' ']' (value depth)
          return .other .array
      | some '\x7b' =>
          return .table (← listIn '\x7b' '\x7d' (do
            let key ← lexeme (either text name)
            lexeme (char ':')
            return (key, (← value depth).setting)))
      | some '"' | some '\'' => return .other (.text (← lexeme text))
      | _ =>
          if ← sees "null" then
            lexeme (word "null")
            return .other .null
          else if ← sees "true" then
            lexeme (word "true")
            return .other (.text "true")
          else if ← sees "false" then
            lexeme (word "false")
            return .other (.text "false")
          else return .other (.text (← lexeme number))

def settings? (document : String) : Option (List (String × Setting)) := do
  let chars := document.toList
  (← all? (do gap; value (chars.length + 1)) chars).members?

end Json5
end WorkloadIdentity
