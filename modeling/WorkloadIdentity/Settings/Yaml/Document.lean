import WorkloadIdentity.Settings.Yaml.Scalar

/-!
# YAML documents

Mappings and sequences, in brackets or by indentation, with anchors for values that are used
again.  A value that begins behind a dash may begin a mapping or a sequence on the same line; one
behind the colon of a key may not.
-/

namespace WorkloadIdentity
namespace Yaml

open Reader

/-- The values with an anchor. -/
abbrev Anchors := List (String × Content)

/-- A character of an anchor's name. -/
def isAnchorChar (c : Char) : Bool :=
  c.isAlphanum || c == '_' || c == '-'

def anchorName (mark : Char) : Reader String := do
  char mark
  let name ← run1 isAnchorChar
  check (!(← follows (one fun c => !isBlank c && c != '\n' && !"?:,]\x7d%@\x60".toList.contains c)))
  return String.ofList name

def tag : Reader String := do
  char '!'
  let name ← run fun c => !isBlank c && c != '\n' && !isFlow c
  return String.ofList ('!' :: name)

/-- The anchor and the tag in front of a value. -/
structure Properties where
  anchor : Option String
  tag : Option String

/-- The properties in front of a value, in either order, with the blanks behind each. -/
def properties : Reader Properties := do
  let spaced {α : Type} (reader : Reader α) : Reader α := do
    let found ← reader
    wordEnd
    let _ ← run isBlank
    return found
  let first ← perhaps (spaced (anchorName '&'))
  let name ← perhaps (spaced tag)
  let second ← if first.isSome then pure none else perhaps (spaced (anchorName '&'))
  return ⟨first.or second, name⟩

/-- Blanks, line ends and comments between the parts of a collection in brackets. -/
def gap : Reader Unit := do
  let _ ← many (either (do let _ ← run1 isBlank) (either comment (do
    char '\n'
    check (!(← atMarker)))))

/-- What a reader finds, with a gap behind it. -/
def lexeme {α : Type} (reader : Reader α) : Reader α := do
  let found ← reader
  gap
  return found

/-- The colon between a key and its value; behind a text in quotation marks or a collection the
value may follow at once. -/
def colon (adjacent : Bool) : Reader Unit := do
  char ':'
  if !adjacent then either wordEnd (do check (← follows (one isFlow)))

/-- Items up to a closing mark, with commas between them and perhaps behind the last. -/
def itemsTo {α : Type} (closing : Char) (item : Reader α) : Reader (List α) := do
  let found ←
    match ← perhaps item with
    | none => pure []
    | some first => do
        let more ← many (do lexeme (char ','); item)
        let _ ← perhaps (lexeme (char ','))
        pure (first :: more)
  char closing
  return found

/-- A plain text in a collection in brackets. -/
def flowPlain : Reader (List Char) :=
  plain true (pure ())

/-- The key of an entry of a mapping in brackets, and whether it is in quotation marks. -/
def flowKey : Reader (String × Bool) := do
  let _ ← properties
  if ← follows quoted then return (← lexeme quoted, true)
  else return (← given (plainKey (← lexeme flowPlain)), false)

/-- A value in brackets or on one line, in which collections are nested less than so deep. -/
def flow (anchors : Anchors) : (depth : Nat) → Reader Content
  | 0 => fun _ => none
  | depth + 1 => do
      let given? ← properties
      match ← peek? with
      | some '"' | some '\'' => return .other (.text (← quoted))
      | some '*' => given (anchors.lookup (← anchorName '*'))
      | some '[' =>
          lexeme (char '[')
          let _ ← itemsTo ']' (do
            let adjacent ← follows (one fun c => c == '"' || c == '\'' || isFlow c)
            let _ ← lexeme (flow anchors depth)
            if (← perhaps (lexeme (colon adjacent))).isSome then
              let _ ← perhaps (lexeme (flow anchors depth)))
          return .other .array
      | some '\x7b' =>
          lexeme (char '\x7b')
          return .table (← itemsTo '\x7d' (do
            let (key, adjacent) ← flowKey
            if (← perhaps (lexeme (colon adjacent))).isSome then
              let value ← perhaps (lexeme (flow anchors depth))
              return (key, (value.getD (.other .null)).setting)
            else return (key, .null)))
      | _ => return .other (← given (taggedValue given?.tag (← flowPlain)))

/-- Empty lines and lines with a comment. -/
def skipLines : Reader Unit := do
  let blank : Reader Unit := do
    let _ ← run (· == ' ')
    let _ ← perhaps comment
  let _ ← many (do blank; char '\n')
  let _ ← perhaps (do blank; check (← atEnd))

/-- The rest of a line on which nothing follows but a comment. -/
def lineRest : Reader Unit := do
  let _ ← run isBlank
  let _ ← perhaps comment
  lineEnd

/-- The column at which the next line has its first character; none at the end of a document. -/
def nextColumn : Reader (Option Nat) := do
  skipLines
  if (← atEnd) ∨ (← atMarker) then return none
  else return some (indentation (← rest))

/-- A mark of one character that stands alone. -/
def indicator (mark : Char) : Reader Unit := do
  char mark
  wordEnd

/-- The next line goes on with what a reader reads behind its indentation. -/
def lineFollows (reader : Reader Unit) : Reader Bool :=
  follows (do
    let _ ← run (· == ' ')
    reader)

/-- The greatest length of a key on the line of its colon. -/
def maxKeyLength : Nat := 1024

/-- A key with its colon on one line. -/
def lineKey : Reader String := do
  let before ← rest
  let _ ← properties
  let key ←
    if ← follows quoted then quoted
    else do
      plainStart false
      given (plainKey (← plainLine false))
  let _ ← run isBlank
  let after ← rest
  let taken := before.take (before.length - after.length)
  check (!taken.contains '\n' && taken.length ≤ maxKeyLength)
  indicator ':'
  return key

/-- A mark at a column, taken off its line: blanks stand for it. -/
def indentPast (mark : Char) (column : Nat) : Reader Unit := do
  let _ ← run (· == ' ')
  indicator mark
  fun input => some ((), List.replicate (column + 1) ' ' ++ input)

/-- The value of a key that is written as a value of its own. -/
def keyOf : Content → Option String
  | .other (.text key) => some key
  | _ => none

/-- A text, an alias or a collection in brackets, with the end of its line. -/
def leaf (anchors : Anchors) (parent : Int) (tag : Option String) : Reader Content := do
  let next ← peek?
  if next = some '|' ∨ next = some '>' then return .other (.text (← block parent))
  else if ← follows (plainStart false) then
    let chars ← plain false (do
      let left ← rest
      check (parent < indentation left))
    -- A tab must not stand where the indentation of one more line would end.
    check (!(← follows (do
      let _ ← many (do let _ ← run (· == ' '); char '\n')
      char '\t')))
    lineRest
    return .other (← given (taggedValue tag chars))
  else
    let depth := (← rest).length
    let found ← flow anchors (depth + 1)
    lineRest
    return found

mutual

/-- A value that belongs to what stands at the column `parent`.  If `inline`, it may begin on the
line that is being read; if `shared`, a sequence may stand at the same column. -/
def node : (fuel : Nat) → (parent : Int) → (shared inline : Bool) → StateT Anchors Reader Content
  | 0, _, _, _ => fun _ _ => none
  | fuel + 1, parent, shared, true => do
      let _ ← run isBlank
      if ← follows lineRest then
        lineRest
        node fuel parent shared false
      else if ← follows (one fun c => c == '&' || c == '!') then
        let found ← properties
        let value ←
          if (← follows lineRest) ∨ found.anchor.isSome ∧ found.tag = none then
            node fuel parent shared true
          else
            let anchors ← get
            leaf anchors parent found.tag
        match found.anchor with
        | some name => modify ((name, value) :: ·)
        | none => pure ()
        return value
      else
        let anchors ← get
        leaf anchors parent none
  | fuel + 1, parent, shared, false => do
      match ← nextColumn with
      | none => return .other .null
      | some column =>
          let dash ← lineFollows (indicator '-')
          if column ≤ parent ∧ ¬(shared ∧ column = parent ∧ dash) then return .other .null
          else if dash then
            items fuel column
            return .other .array
          else if (← lineFollows (indicator '?')) ∨ (← lineFollows (do let _ ← lineKey)) then
            return .table (← entries fuel column)
          else node fuel parent shared true

/-- The items of a sequence at a column. -/
def items : (fuel : Nat) → (column : Nat) → StateT Anchors Reader Unit
  | 0, _ => fun _ _ => none
  | fuel + 1, column => do
      if (← nextColumn) = some column ∧ (← lineFollows (indicator '-')) then
        indentPast '-' column
        let _ ← node fuel column false false
        items fuel column

/-- The entries of a mapping at a column. -/
def entries : (fuel : Nat) → (column : Nat) → StateT Anchors Reader (List (String × Setting))
  | 0, _ => fun _ _ => none
  | fuel + 1, column => do
      if (← nextColumn) = some column then
        if ← lineFollows (indicator '?') then
          indentPast '?' column
          let key ← given (keyOf (← node fuel column true false))
          let value ←
            if (← nextColumn) = some column ∧ (← lineFollows (indicator ':')) then
              indentPast ':' column
              node fuel column true false
            else pure (.other .null)
          return (key, value.setting) :: (← entries fuel column)
        else
          let _ ← run (· == ' ')
          let key ← lineKey
          let value ← node fuel column true true
          return (key, value.setting) :: (← entries fuel column)
      else return []

end

/-- A line in front of a document that says how to read it. -/
def directive : Reader Unit := do
  char '%'
  let _ ← run (· != '\n')
  lineEnd
  skipLines

/-- The only document of a file, if it has one. -/
def document : Reader (Option Content) := do
  let fuel := 3 * (← rest).length + 8
  let ends : Reader Unit := do
    let _ ← many (do marker "..."; lineRest; skipLines)
  skipLines
  ends
  let directives ← many directive
  if (← atEnd) ∧ directives = [] then return none
  else
    let explicit := (← perhaps (marker "---")).isSome
    check (explicit || directives = [])
    let (found, _) ← (node fuel (-1) false explicit).run []
    skipLines
    ends
    check (← atEnd)
    return some found

/-- The characters of a file up to its end, with all line ends written alike. -/
def normalized : List Char → List Char
  | [] => []
  | '\x00' :: _ => []
  | '\r' :: '\n' :: chars => '\n' :: normalized chars
  | '\r' :: chars => '\n' :: normalized chars
  | c :: chars => c :: normalized chars

/-- The settings of a file; one without a document has none. -/
def settings? (text : String) : Option (List (String × Setting)) := do
  match ← all? document (normalized text.toList) with
  | none => some []
  | some content => content.members?

end Yaml
end WorkloadIdentity
