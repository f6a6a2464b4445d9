import WorkloadIdentity.Settings.Table
import WorkloadIdentity.Text.CodePoint
import WorkloadIdentity.Text.Real

/-!
# YAML scalars

Plain texts and what they stand for, texts between quotation marks with their line folding, and
indented texts.  Line ends are all written alike when a document is read.
-/

namespace WorkloadIdentity
namespace Yaml

open Reader

/-- A space or a tab. -/
def isBlank (c : Char) : Bool :=
  c == ' ' || c == '\t'

/-- A character that parts the items of a flow collection. -/
def isFlow (c : Char) : Bool :=
  c == ',' || c == '[' || c == ']' || c == '\x7b' || c == '\x7d'

/-- The end of a word: a blank, the end of the line or the end of the document. -/
def wordEnd : Reader Unit := do
  match ← peek? with
  | none => return
  | some c => check (isBlank c || c == '\n')

/-- A mark that begins or ends a document, which stands at the beginning of a line. -/
def marker (mark : String) : Reader Unit := do
  word mark
  wordEnd

/-- The next line begins or ends a document. -/
def atMarker : Reader Bool :=
  follows (either (marker "---") (marker "..."))

/-- A comment up to the end of its line. -/
def comment : Reader Unit := do
  char '#'
  let _ ← run (· != '\n')

/-- The end of a line or of the document. -/
def lineEnd : Reader Unit :=
  either (char '\n') (do check (← atEnd))

/-- A number of 64 bits with a sign or without one. -/
def wholeText (base : Nat) (chars : List Char) : Option String := do
  let negative := chars.head? = some '-'
  let digits := if negative ∨ chars.head? = some '+' then chars.drop 1 else chars
  let values ← digits.mapM Hex.value?
  if digits ≠ [] ∧ values.all (· < base) then
    Decimal.text64? negative (values.foldl (fun total value => total * base + value) 0)
  else none

/-- A text that stands for a whole number: in base sixteen or eight with its mark, or in base
ten. -/
def wholeOf? : List Char → Option String
  | '0' :: 'x' :: digits => wholeText 16 digits
  | '0' :: 'o' :: digits => wholeText 8 digits
  | chars => wholeText 10 chars

/-- The texts that stand for no finite number and have no other form. -/
def unbounded : List String :=
  [".inf", ".Inf", ".INF", "+.inf", "+.Inf", "+.INF", "-.inf", "-.Inf", "-.INF", ".nan", ".NAN"]

/-- What a plain text stands for.  Numbers are written anew; those that are not finite are
refused in their dotted form. -/
def plainValue (chars : List Char) : Option Setting :=
  let text := String.ofList chars
  if text = "~" ∨ text = "null" ∨ text = "" then some .null
  else if unbounded.contains text then none
  else
    match wholeOf? chars, Real.ofChars? chars with
    | some whole, _ => some (.text whole)
    | none, some real => some (.text real.text)
    | none, none => some (.text text)

/-- The name that a plain text is as a key: a whole number, or what is no other scalar. -/
def plainKey (chars : List Char) : Option String :=
  let text := String.ofList chars
  match wholeOf? chars with
  | some whole => some whole
  | none =>
      if text = "true" ∨ text = "false" ∨ plainValue chars ≠ some (.text text) then none
      else some text

/-- What a plain text stands for under a tag. -/
def taggedValue (tag : Option String) (chars : List Char) : Option Setting :=
  let orNull (value : Option String) : Setting := (value.map Setting.text).getD .null
  let text := String.ofList chars
  match tag with
  | none => plainValue chars
  | some "!!int" => some (orNull (wholeText 10 chars))
  | some "!!float" =>
      if unbounded.contains text then none
      else some (orNull ((Real.ofChars? chars).map Real.text))
  | some "!!bool" => some (if text = "true" ∨ text = "false" then .text text else .null)
  | some "!!null" => some .null
  | some _ => some (.text text)

/-- The characters of a plain text on one line, without the blanks at its end.  It ends before a
colon at the end of a word and before a comment; in a flow collection also where an item ends. -/
def plainLine (inFlow : Bool) : Reader (List Char) := do
  let word : Reader (List Char) := do
    let chars ← many (do
      check (!(← follows (do
        char ':'
        if inFlow then either wordEnd (do let _ ← one isFlow) else wordEnd)))
      one fun c => !isBlank c && c != '\n' && !(inFlow && isFlow c))
    check (chars ≠ [])
    return chars
  let first ← word
  let more ← many (do
    let blanks ← run1 isBlank
    check ((← peek?) ≠ some '#')
    return blanks ++ (← word))
  return first ++ more.flatten

/-- No other token begins with the next character. -/
def plainStart (inFlow : Bool) : Reader Unit := do
  match ← peek? with
  | none => fun _ => none
  | some c =>
      if c == '-' || c == '?' || c == ':' then check (!(← follows (do let _ ← any; wordEnd)))
      else check (!("#&*!'\"%@\x60".toList.contains c) && !isFlow c
        && (inFlow || (c != '|' && c != '>')))

/-- What a number of line ends between two words is folded to. -/
def folded (count : Nat) : List Char :=
  if count = 1 then [' '] else List.replicate (count - 1) '\n'

/-- A plain text with the lines that continue it, which satisfy a condition after their
indentation. -/
def plain (inFlow : Bool) (continues : Reader Unit) : Reader (List Char) := do
  plainStart inFlow
  let first ← plainLine inFlow
  let more ← many (do
    let _ ← run isBlank
    let ends ← many (do char '\n'; let _ ← run (· == ' ') ; check ((← peek?) = some '\n'))
    char '\n'
    check (!(← atMarker))
    continues
    let _ ← run isBlank
    check ((← peek?) ≠ some '#')
    return folded (ends.length + 1) ++ (← plainLine inFlow))
  return first ++ more.flatten

def escaped (c : Char) : Reader Char :=
  match c with
  | '0' => return '\x00'
  | 'a' => return '\x07'
  | 'b' => return '\x08'
  | 't' | '\t' => return '\t'
  | 'n' => return '\n'
  | 'v' => return '\x0b'
  | 'f' => return '\x0c'
  | 'r' => return '\r'
  | 'e' => return '\x1b'
  | ' ' | '"' | '\'' | '\\' => return c
  | 'N' => return '\u0085'
  | '_' => return '\u00A0'
  | 'L' => return '\u2028'
  | 'P' => return '\u2029'
  | 'x' => CodePoint.reader 2
  | 'u' => CodePoint.reader 4
  | 'U' => CodePoint.reader 8
  | _ => fun _ => none

/-- Blanks and line ends inside of a text; no line of it begins or ends a document. -/
def space : Reader (List Char) := do
  let pieces ← many (either (run1 isBlank) (do
    char '\n'
    check (!(← atMarker))
    return ['\n']))
  check (pieces ≠ [])
  return pieces.flatten

def lineEnds (chars : List Char) : Nat :=
  chars.count '\n'

/-- Blanks inside of a text, or what its line ends are folded to. -/
def foldedSpace : Reader (List Char) := do
  let chars ← space
  return if lineEnds chars = 0 then chars else folded (lineEnds chars)

def doubleQuoted : Reader String := do
  char '"'
  let pieces ← many (either foldedSpace (either
    (do
      char '\\'
      match ← any with
      | '\n' =>
          let chars ← perhaps space
          return List.replicate (lineEnds (chars.getD [])) '\n'
      | c => return [← escaped c])
    (do return [← one fun c => c != '"' && c != '\\' && !isBlank c && c != '\n'])))
  char '"'
  return String.ofList pieces.flatten

/-- A text in single quotation marks, in which a mark is written twice. -/
def singleQuoted : Reader String := do
  char '\''
  let pieces ← many (either foldedSpace (either
    (do word "''"; return ['\''])
    (do return [← one fun c => c != '\'' && !isBlank c && c != '\n'])))
  char '\''
  return String.ofList pieces.flatten

def quoted : Reader String :=
  either doubleQuoted singleQuoted

/-- What becomes of the line ends behind an indented text. -/
inductive Ending
  | strip
  | clip
  | keep
  deriving DecidableEq

/-- An indented text so far: its lines, whether one ended, the empty lines since, and whether it
began with a blank. -/
structure Block where
  text : List Char
  ended : Bool
  empty : Nat
  indented : Bool

/-- One more line; an empty one is none.  In a folded text the line end between two lines that do
not begin with a blank becomes a space. -/
def Block.step (literal : Bool) (block : Block) : Option (List Char) → Block
  | none => { block with empty := block.empty + 1 }
  | some line =>
      let indented := line.head?.any isBlank
      let joint :=
        if !literal && block.ended && !block.indented && !indented then
          (if block.empty = 0 then [' '] else [])
        else if block.ended then ['\n'] else []
      ⟨block.text ++ joint ++ List.replicate block.empty '\n' ++ line, true, 0, indented⟩

/-- The number of spaces at the beginning of a line. -/
def indentation (line : List Char) : Nat :=
  (line.takeWhile (· == ' ')).length

/-- The line is nothing but so many spaces at most. -/
def isEmptyTo (column : Nat) (line : List Char) : Bool :=
  indentation line = line.length && line.length ≤ column

def linesOf (chars : List Char) : List (List Char) :=
  chars.foldr (fun c lines =>
    match lines with
    | [] => [[c]]
    | line :: lines => if c = '\n' then [] :: line :: lines else (c :: line) :: lines) [[]]

/-- The indentation of a text whose lines begin here. -/
def columnOf (parent : Int) (lines : List (List Char)) : Nat :=
  let empty := lines.takeWhile fun line => indentation line = line.length
  let first := lines.drop empty.length
  let widest := (empty ++ first.take 1).foldl (fun widest line => max widest (indentation line)) 1
  max widest (parent + 1).toNat

/-- An indented text with the lines behind it. -/
def blockText (parent : Int) (literal : Bool) (ending : Ending) (increment : Nat)
    (lines : List (List Char)) : Option (List Char × List (List Char)) :=
  let column :=
    if increment = 0 then columnOf parent lines else (max parent 0).toNat + increment
  let isPart := fun line => isEmptyTo column line || column ≤ indentation line
  let part := lines.takeWhile isPart
  let left := lines.drop part.length
  if left.head?.any fun line => (line.dropWhile (· == ' ')).head? = some '\t' then none
  else
    -- Behind the last line of a document there is no line end.
    let last := if left = [] then part.getLast? else none
    let whole := if left = [] then part.dropLast else part
    let read := fun line => if isEmptyTo column line then none else some (line.drop column)
    let block := (whole.map read).foldl (Block.step literal) ⟨[], false, 0, false⟩
    let block :=
      match last.bind read with
      | some line => { block.step literal (some line) with ended := false }
      | none => block
    let breaks :=
      match ending with
      | .strip => []
      | .clip => if block.ended then ['\n'] else []
      | .keep => (if block.ended then ['\n'] else []) ++ List.replicate block.empty '\n'
    some (block.text ++ breaks, left)

/-- The mark, the indentation and the ending of an indented text, with the end of the line. -/
def blockHeader : Reader (Bool × Nat × Ending) := do
  let mark ← one fun c => c == '|' || c == '>'
  let ending : Reader Ending := do
    return if (← one fun c => c == '+' || c == '-') == '+' then .keep else .strip
  let digit : Reader Nat := do
    return Decimal.spelled [← one fun c => '1' ≤ c && c ≤ '9']
  let first ← perhaps ending
  let increment ← perhaps digit
  let second ← if first.isSome then pure none else perhaps ending
  let _ ← run isBlank
  let _ ← perhaps comment
  lineEnd
  return (mark == '|', increment.getD 0, (first.or second).getD .clip)

/-- An indented text under what stands at the column `parent`. -/
def block (parent : Int) : Reader String := do
  let (literal, increment, ending) ← blockHeader
  let (chars, left) ← given (blockText parent literal ending increment (linesOf (← rest)))
  fun _ => some (String.ofList chars, (List.intersperse ['\n'] left).flatten)

end Yaml
end WorkloadIdentity
