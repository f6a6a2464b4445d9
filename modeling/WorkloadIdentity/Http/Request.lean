import WorkloadIdentity.Text.Lossy
import WorkloadIdentity.Text.Percent

/-!
# Requests

Requests without a body, and the fields of their query strings.
-/

namespace WorkloadIdentity
namespace Http

structure Request where
  method : String
  /-- The path as it was sent, with its escapes. -/
  path : String
  /-- What follows the question mark. -/
  query : Option String
  /-- The header fields in the order in which they were sent. -/
  headers : List (String × Bytes)
  deriving DecidableEq, Repr

/-- A text up to the first character of a kind, and what follows that character. -/
def cutAt (mark : Char) (text : String) : String × Option String :=
  let chars := text.toList
  (String.ofList (chars.takeWhile (· ≠ mark)),
    match chars.dropWhile (· ≠ mark) with
    | [] => none
    | _ :: rest => some (String.ofList rest))

namespace Request

/-- The request for an address, whose fragment is not sent. -/
def ofUri (method uri : String) (headers : List (String × Bytes)) : Request :=
  let (path, query) := cutAt '?' (cutAt '#' uri).1
  { method, path, query, headers }

/-- A character of a header field's value that can be read as text. -/
def isVisible (byte : UInt8) : Bool :=
  (0x20 ≤ byte && byte < 0x7F) || byte == 0x09

/-- The text of the first header field with a name, in any case, if it can be read. -/
def header? (request : Request) (name : String) : Option String := do
  let (_, value) ← request.headers.find? fun field => field.1.toLower == name.toLower
  if value.all isVisible then Bytes.text? value else none

/-- A name or a value of a field in a query string. -/
def fieldText (text : String) : String :=
  Lossy.text (Percent.decodeForm (Bytes.ofText text))

/-- The parts of a text between ampersands. -/
def fieldParts (text : String) : List String :=
  let (current, done) := text.toList.foldr (fun c (current, done) =>
    if c = '&' then ([], String.ofList current :: done) else (c :: current, done))
    (([] : List Char), ([] : List String))
  String.ofList current :: done

/-- The fields of the query string, with their values. -/
def fields (request : Request) : List (String × String) :=
  ((fieldParts (request.query.getD "")).filter (· ≠ "")).map fun part =>
    let (name, value) := cutAt '=' part
    (fieldText name, fieldText (value.getD ""))

/-- The first field among those with given names that occurs a second time. -/
def repeated? (names : List String) (fields : List (String × String)) : Option String :=
  go [] fields
where
  /-- The first field that is among those already seen. -/
  go (seen : List String) : List (String × String) → Option String
    | [] => none
    | (name, _) :: rest =>
        if name ∈ names then
          if name ∈ seen then some name else go (name :: seen) rest
        else go seen rest

end Request
end Http
end WorkloadIdentity
