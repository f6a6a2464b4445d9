import WorkloadIdentity.Settings.Table
import WorkloadIdentity.Text.Blank
import WorkloadIdentity.Text.CodePoint

/-!
# Settings in INI files

Keys and values, alone or in sections.  A key ends at an equals sign or a colon and may run over
several lines; a value ends with its line.  Comments begin at the beginning of a line.
-/

namespace WorkloadIdentity
namespace Ini

open Reader

def isLineEnd (c : Char) : Bool :=
  c == '\n' || c == '\r'

/-- What an escape stands for: a character, or nothing before a line end. -/
def escape : Reader (List Char) := do
  char '\\'
  match ← any with
  | '0' => return ['\x00']
  | 'a' => return ['\x07']
  | 'b' => return ['\x08']
  | 't' => return ['\t']
  | 'r' => return ['\r']
  | 'n' => return ['\n']
  | '\n' => return []
  | 'x' => return [← CodePoint.reader 4]
  | c => return [c]

/-- The text up to a character of a kind, which stays, or up to the end. -/
def upTo (isEnd : Char → Bool) : Reader (List Char) := do
  let pieces ← many (either escape (do return [← one fun c => !isEnd c && c != '\\']))
  return pieces.flatten

def quoted (mark : Char) : Reader (List Char) := do
  char mark
  let chars ← upTo (· == mark)
  char mark
  return chars

/-- A value: a text between quotation marks or none, and what follows up to the end of the
line. -/
def value : Reader String := do
  let _ ← run fun c => isBlank c && !isLineEnd c
  let first ← perhaps (either (quoted '"') (quoted '\''))
  match first, ← peek? with
  | none, some '"' | none, some '\'' => fun _ => none
  | first, _ =>
      let last ← upTo isLineEnd
      return trimBlank (String.ofList (first.getD [] ++ last))

/-- What a file is made of. -/
inductive Item
  | comment
  | header (name : String)
  | pair (key value : String)

/-- A name with nothing around it. -/
def name (isEnd : Char → Bool) : Reader String := do
  return trimBlank (String.ofList (← upTo isEnd))

/-- One item with the blanks before it. -/
def item : Reader Item := do
  let blanks ← run isBlank
  match ← peek? with
  | some ';' | some '#' =>
      check (blanks.getLast? = some '\n')
      let _ ← run (· != '\n')
      return .comment
  | some '[' =>
      char '['
      let title ← name (· == ']')
      char ']'
      return .header title
  | _ =>
      let key ← name fun c => c == '=' || c == ':'
      let _ ← one fun c => c == '=' || c == ':'
      check (key ≠ "")
      return .pair key (← value)

def items : Reader (List Item) := do
  let found ← many item
  let _ ← run isBlank
  return found

/-- What is known of the sections up to some item: the values outside of all sections, and for
each section whether it is empty.  The last section is still open. -/
structure Progress where
  outside : List (String × Setting)
  sections : List (String × Bool)

def Progress.step (progress : Progress) : Item → Progress
  | .comment => progress
  | .header title => { progress with sections := (title, true) :: progress.sections }
  | .pair key value =>
      match progress.sections with
      | [] => { progress with outside := (key, .text value) :: progress.outside }
      | (title, _) :: earlier => { progress with sections := (title, false) :: earlier }

/-- The settings of a document: the values outside of all sections, and each section as a
table. -/
def settings? (text : String) : Option (List (String × Setting)) := do
  -- The line end put in front lets a comment stand in the first line.
  let found ← all? items ('\n' :: text.toList)
  let progress := found.foldl Progress.step ⟨[], []⟩
  let tables := progress.sections.reverse.map fun (title, isEmpty) =>
    (title, Setting.table isEmpty)
  return progress.outside.reverse ++ tables

end Ini
end WorkloadIdentity
