import WorkloadIdentity.Settings.Table
import WorkloadIdentity.Text.CodePoint
import WorkloadIdentity.Text.Real

/-!
# Settings in RON

Structures with or without a name, maps, lists, tuples, optional values and scalars.
-/

namespace WorkloadIdentity
namespace Ron

open Reader

def isSpace (c : Char) : Bool :=
  c == ' ' || c == '\t' || c == '\n' || c == '\r'

/-- A comment in which comments may be nested less than so deep. -/
def nested : (depth : Nat) → Reader Unit
  | 0 => fun _ => none
  | depth + 1 => do
      word "/*"
      let _ ← many (either (nested depth) (do
        check (!(← sees "*/"))
        check (!(← sees "/*"))
        let _ ← any))
      word "*/"

/-- White space and comments. -/
def gap : Reader Unit := do
  let depth := (← rest).length
  let _ ← many (either (do let _ ← run1 isSpace)
    (either (nested depth) (do word "//"; let _ ← run (· != '\n'))))
  -- What looks like a comment but has no end is nothing else.
  check (!(← sees "/"))

/-- What a reader finds, with a gap behind it. -/
def lexeme {α : Type} (reader : Reader α) : Reader α := do
  let found ← reader
  gap
  return found

def startsName (c : Char) : Bool :=
  c.isAlpha || c == '_'

def name : Reader String := do
  let first ← one startsName
  let more ← run fun c => startsName c || Decimal.isDigit c
  check (first :: more ≠ ['r'] ∨ !(← sees "\""))
  check (first :: more ≠ ['r'] ∨ !(← sees "#"))
  return String.ofList (first :: more)

def escape : Reader Char := do
  char '\\'
  match ← any with
  | '\'' => return '\''
  | '"' => return '"'
  | '\\' => return '\\'
  | 'n' => return '\n'
  | 'r' => return '\r'
  | 't' => return '\t'
  | '0' => return '\x00'
  | 'x' => CodePoint.reader 2
  | 'u' =>
      char '\x7b'
      let digits ← run1 fun c => (Hex.value? c).isSome
      check (digits.length ≤ 6)
      char '\x7d'
      given ((CodePoint.spelled? digits).bind CodePoint.char?)
  | _ => fun _ => none

/-- A text between quotation marks. -/
def text : Reader String := do
  char '"'
  let chars ← many (either escape (one fun c => c != '"' && c != '\\'))
  char '"'
  return String.ofList chars

/-- A text without escapes; its end repeats the number signs of its beginning. -/
def rawText : Reader String := do
  char 'r'
  let signs ← run (· == '#')
  char '"'
  let mark := String.ofList ('"' :: signs)
  let chars ← many (do
    check (!(← sees mark))
    any)
  word mark
  return String.ofList chars

def character : Reader String := do
  char '\''
  let c ← either escape (one (· != '\\'))
  char '\''
  return String.ofList [c]

/-- A character of a whole number in any base. -/
def isWholeChar (c : Char) : Bool :=
  (Hex.value? c).isSome || c == '_'

/-- A character of a number with a point or an exponent. -/
def isFloatChar (c : Char) : Bool :=
  Decimal.isDigit c || c == 'e' || c == 'E' || c == '.' || c == '+' || c == '-' || c == '_'

/-- A number of 64 bits without a sign.  Beyond the numbers with a sign it is rounded. -/
def wholeText (n : Nat) : Option String :=
  let rounded := if n < UInt64.size then some (Real.ofDecimal false n 0).text else none
  (Decimal.text64? false n).or rounded

/-- The digits of a whole number, which underscores may part. -/
def digits (base : Nat) : Reader Nat := do
  let chars ← run1 isWholeChar
  check (chars.head? ≠ some '_')
  let values ← given ((chars.filter (· != '_')).mapM Hex.value?)
  check (values.all (· < base))
  return values.foldl (fun total value => total * base + value) 0

def whole : Reader String := do
  let sign ← Real.sign
  let n ←
    if ← sees "0x" then do word "0x"; digits 16
    else if ← sees "0o" then do word "0o"; digits 8
    else if ← sees "0b" then do word "0b"; digits 2
    else digits 10
  given (if sign = none then wholeText n else Decimal.text64? (sign = some true) n)

/-- A number with a point or an exponent, without underscores. -/
def float : Reader String := do
  let chars ← run1 isFloatChar
  check (!chars.contains '_')
  return (← given (Real.ofChars? chars)).text

/-- A number: one with a point or an exponent if more characters may belong to that than to a
whole number. -/
def number : Reader String := do
  let left ← rest
  let unsigned := if left.head? = some '+' ∨ left.head? = some '-' then left.drop 1 else left
  if (unsigned.takeWhile isWholeChar).length < (unsigned.takeWhile isFloatChar).length then float
  else whole

/-- Items up to a closing mark, with commas between them and perhaps behind the last. -/
def itemsTo {α : Type} (closing : Char) (item : Reader α) : Reader (List α) := do
  let found ←
    match ← perhaps item with
    | none => pure []
    | some first => do
        let more ← many (do lexeme (char ','); item)
        let _ ← perhaps (lexeme (char ','))
        pure (first :: more)
  lexeme (char closing)
  return found

/-- The name of a field with its colon. -/
def fieldName : Reader String := do
  let key ← lexeme name
  lexeme (char ':')
  return key

def anyText : Reader String :=
  either text (either rawText character)

/-- What stands in parentheses: nothing, fields with their names, or values in order. -/
def enclosed (value : Reader Content) : Reader Content := do
  lexeme (char '(')
  if ← sees ")" then
    lexeme (char ')')
    return .other .null
  else if ← follows fieldName then
    return .table (← itemsTo ')' (do
      let key ← fieldName
      return (key, (← value).setting)))
  else
    let _ ← itemsTo ')' value
    return .other .array

/-- What a name stands for, given what may follow it. -/
def named (value : Reader Content) : Reader Content := do
  match ← name with
  | "true" => return .other (.text "true")
  | "false" => return .other (.text "false")
  | "inf" => return .other (.text (Real.infinite false).text)
  | "NaN" => return .other (.text Real.undefined.text)
  | "None" => return .other .null
  | "Some" =>
      gap
      lexeme (char '(')
      let found ← value
      let _ ← perhaps (lexeme (char ','))
      char ')'
      return found
  | _ =>
      gap
      if ← sees "(" then enclosed value else return .other .null

/-- A value with a gap behind it, in which values are nested less than so deep. -/
def value : (depth : Nat) → Reader Content
  | 0 => fun _ => none
  | depth + 1 => lexeme (do
      match ← peek? with
      | some '(' => enclosed (value depth)
      | some '[' =>
          lexeme (char '[')
          let _ ← itemsTo ']' (value depth)
          return .other .array
      | some '\x7b' =>
          lexeme (char '\x7b')
          return .table (← itemsTo '\x7d' (do
            let key ← lexeme anyText
            lexeme (char ':')
            return (key, (← value depth).setting)))
      | some '.' => return .other (.text (← float))
      | some c =>
          if Decimal.isDigit c || c == '+' || c == '-' then
            if ← sees "-inf" then
              word "-inf"
              return .other (.text (Real.infinite true).text)
            else return .other (.text (← number))
          else either (do return .other (.text (← anyText))) (named (value depth))
      | none => fun _ => none)

/-- The extensions of the format that a document may ask for. -/
def extensions : List String :=
  ["unwrap_newtypes", "implicit_some", "unwrap_variant_newtypes"]

/-- A line that asks for extensions. -/
def header : Reader Unit := do
  lexeme (char '#')
  lexeme (char '!')
  lexeme (char '[')
  lexeme (word "enable")
  lexeme (char '(')
  let asked ← itemsTo ')' (lexeme name)
  check (asked ≠ [] && asked.all extensions.contains)
  lexeme (char ']')

/-- How deep values may be nested. -/
def maxDepth : Nat := 128

def settings? (document : String) : Option (List (String × Setting)) := do
  let content ← all? (do
    gap
    let _ ← many header
    value (maxDepth + 1)) document.toList
  content.members?

end Ron
end WorkloadIdentity
