import WorkloadIdentity.Settings.Table
import WorkloadIdentity.Settings.Toml.Scalar

/-!
# TOML documents

Tables under their headers, with the rules on what may be defined where: a header names its table
once, and keys with dots make tables that no header and no other line may add to.
-/

namespace WorkloadIdentity
namespace Toml

open Reader

/-- How a table came to be. -/
inductive Origin
  /-- By its own header. -/
  | header
  /-- Above a table with a header. -/
  | implied
  /-- By a key with dots. -/
  | dotted
  deriving DecidableEq, Repr

/-- What stands under a key. -/
inductive Node
  | value (setting : Setting)
  | table (origin : Origin) (members : List (String × Node))
  /-- An array of tables; only the last can be added to. -/
  | tables (last : List (String × Node))

/-- The members of a table. -/
abbrev Members := List (String × Node)

/-- The members with something else under a key. -/
def assign (members : Members) (key : String) (node : Node) : Members :=
  match members with
  | [] => [(key, node)]
  | entry :: rest =>
      if entry.1 = key then (key, node) :: rest else entry :: assign rest key node

/-- The members without what stands under a key. -/
def remove (members : Members) (key : String) : Members :=
  members.filter fun entry => entry.1 ≠ key

/-- A change at the end of a path below a table.  Missing tables are made; keys with dots do not
lead through tables with a header. -/
def changeAt (dotted : Bool) (change : Origin → Members → Option Members) :
    List String → (origin : Origin) → Members → Option Members
  | [], origin, members => change origin members
  | key :: path, _, members =>
      match members.lookup key with
      | none => do
          let origin := if dotted then Origin.dotted else .implied
          return assign members key (.table origin (← changeAt dotted change path origin []))
      | some (.table origin inner) =>
          if dotted ∧ origin = .header then none
          else do
            return assign members key (.table origin (← changeAt dotted change path origin inner))
      | some (.tables last) => do
          return assign members key (.tables (← changeAt dotted change path .header last))
      | some (.value _) => none

/-- A value under a key with dots. -/
def define (members : Members) (path : List String) (key : String) (setting : Setting) :
    Option Members :=
  changeAt true (fun origin members =>
    if (path ≠ [] ∧ origin ≠ .dotted) ∨ (members.lookup key).isSome then none
    else some (assign members key (.value setting))) path .header members

/-- Blanks, line ends and comments between the parts of an array. -/
def gap : Reader Unit := do
  let _ ← many (either lineEnd (either (do let _ ← run1 isBlank)
    (do char '#'; let _ ← run isPlain)))

def isKeyChar (c : Char) : Bool :=
  ('a' ≤ c && c ≤ 'z') || ('A' ≤ c && c ≤ 'Z') || Decimal.isDigit c || c == '_' || c == '-'

/-- One part of a key. -/
def keyPart : Reader String := do
  let chars ← either basicString (either literalString (run1 isKeyChar))
  return String.ofList chars

/-- A key, as the parts before its last dot and the last part. -/
def key : Reader (List String × String) := do
  let blanks : Reader Unit := do let _ ← run isBlank
  blanks
  let first ← keyPart
  blanks
  let more ← many (do
    char '.'
    blanks
    let part ← keyPart
    blanks
    return part)
  let parts := first :: more
  return (parts.dropLast, parts.getLastD first)

/-- How deep values may be nested. -/
def maxDepth : Nat := 80

/-- Parts between commas, as far as they go. -/
def separated {α : Type} (item : Reader α) : Reader (List α) := do
  match ← perhaps item with
  | none => return []
  | some first =>
      let more ← many (do char ','; item)
      return first :: more

/-- A value, in which values are nested at most so deep. -/
def value : (depth : Nat) → Reader Setting
  | 0 => fun _ => none
  | depth + 1 => do
      match ← peek? with
      | some '"' | some '\'' => return .text (String.ofList (← string))
      | some '[' =>
          char '['
          let items ← separated (do
            gap
            let item ← value depth
            gap
            return item)
          if items ≠ [] then
            let _ ← perhaps (char ',')
          gap
          char ']'
          return .array
      | some '\x7b' =>
          char '\x7b'
          let entries ← separated (do
            let (path, name) ← key
            char '='
            let _ ← run isBlank
            let setting ← value depth
            let _ ← run isBlank
            return (path, name, setting))
          let _ ← run isBlank
          char '\x7d'
          let _ ← given (entries.foldlM (fun members (path, name, setting) =>
            define members path name setting) ([] : Members))
          return .table entries.isEmpty
      | _ => return .text (← bare)

/-- What one line says. -/
inductive Line
  | nothing
  | pair (path : List String) (key : String) (setting : Setting)
  | header (path : List String) (key : String)
  | arrayHeader (path : List String) (key : String)

/-- The blanks and the comment at the end of a line. -/
def lineRest : Reader Unit := do
  let _ ← run isBlank
  let _ ← perhaps (do char '#'; let _ ← run isPlain)

def line : Reader Line := do
  let _ ← run isBlank
  let found ←
    match ← peek? with
    | none | some '\n' | some '\r' | some '#' => pure Line.nothing
    | some '[' =>
        if ← sees "[[" then
          word "[["
          let (path, name) ← key
          word "]]"
          pure (Line.arrayHeader path name)
        else
          char '['
          let (path, name) ← key
          char ']'
          pure (Line.header path name)
    | _ =>
        let (path, name) ← key
        char '='
        let _ ← run isBlank
        pure (Line.pair path name (← value maxDepth))
  lineRest
  return found

def lines : Reader (List Line) := do
  let earlier ← many (do
    let found ← line
    lineEnd
    return found)
  return earlier ++ [← line]

/-- The document so far, with the table that the lines belong to. -/
structure Progress where
  root : Members
  /-- The members of the table that is open; the document's own where no header came yet. -/
  current : Members
  /-- The header of the open table, and whether it stands for an array of tables. -/
  opened : Option (List String × String × Bool)

namespace Progress

/-- The document with the open table put into its place. -/
def close? (progress : Progress) : Option Members :=
  match progress.opened with
  | none => some progress.current
  | some (path, key, true) =>
      changeAt false (fun _ members => some (assign members key (.tables progress.current)))
        path .header progress.root
  | some (path, key, false) =>
      changeAt false (fun _ members =>
        some (assign members key (.table .header progress.current))) path .header progress.root

/-- A table is opened by its header.  It must not have had one before; what stands in tables
below it is kept. -/
def openTable? (root : Members) (path : List String) (key : String) : Option Progress := do
  let found ← tableAt? path root
  let kept ←
    match found.lookup key with
    | none => some []
    | some (.table .implied members) => some members
    | some _ => none
  let root ← changeAt false (fun _ members => some (remove members key)) path .header root
  return ⟨root, kept, some (path, key, false)⟩
where
  /-- The members at the end of a path, where there may be nothing yet. -/
  tableAt? : List String → Members → Option Members
    | [], members => some members
    | key :: path, members =>
        match members.lookup key with
        | none => some []
        | some (.table _ inner) => tableAt? path inner
        | some (.tables last) => tableAt? path last
        | some (.value _) => none

/-- One more table of an array is opened by its header. -/
def openArray? (root : Members) (path : List String) (key : String) : Option Progress := do
  let root ← changeAt false (fun _ members =>
    match members.lookup key with
    | none => some (assign members key (.tables []))
    | some (.tables last) => some (assign members key (.tables last))
    | some _ => none) path .header root
  return ⟨root, [], some (path, key, true)⟩

def step? (progress : Progress) : Line → Option Progress
  | .nothing => some progress
  | .pair path key setting => do
      return { progress with current := ← define progress.current path key setting }
  | .header path key => do openTable? (← progress.close?) path key
  | .arrayHeader path key => do openArray? (← progress.close?) path key

end Progress

def Node.setting : Node → Setting
  | value setting => setting
  | table _ members => .table members.isEmpty
  | tables _ => .array

def settings? (text : String) : Option (List (String × Setting)) := do
  let lines ← all? lines text.toList
  let progress ← lines.foldlM Progress.step? ⟨[], [], none⟩
  return (← progress.close?).map fun entry => (entry.1, entry.2.setting)

end Toml
end WorkloadIdentity
