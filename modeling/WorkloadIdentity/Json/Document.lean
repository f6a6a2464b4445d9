import WorkloadIdentity.Json.Token

/-!
# JSON documents

A document is read from its tokens one at a time, with the open containers on a stack, so that
nesting has no bound.  It is written compactly or with one member on a line.
-/

namespace WorkloadIdentity
namespace Json

mutual

def tokens : Json → List Token
  | null => [.null]
  | bool value => [.bool value]
  | number numeral => [.number numeral]
  | text literal => [.text literal]
  | array items => .openArray :: itemTokens items
  | object members => .openObject :: memberTokens members

/-- The tokens of the items of an array, and its end. -/
def itemTokens : List Json → List Token
  | [] => [.closeArray]
  | [item] => tokens item ++ [.closeArray]
  | item :: items => tokens item ++ .comma :: itemTokens items

/-- The tokens of the members of an object, and its end. -/
def memberTokens : List (Literal × Json) → List Token
  | [] => [.closeObject]
  | [(key, value)] => .text key :: .colon :: (tokens value ++ [.closeObject])
  | (key, value) :: members =>
      .text key :: .colon :: (tokens value ++ .comma :: memberTokens members)

end

def compact (json : Json) : String :=
  String.ofList (compactChars json.tokens)

/-- The text of a value with one member on a line. -/
def pretty (json : Json) : String :=
  String.ofList (prettyChars 0 json.tokens)

/-- An open container around the value that comes next. -/
inductive Frame
  /-- An array, with its items so far, the last one first. -/
  | array (items : List Json)
  /-- An object, with its members so far, the last one first, and the key of the next. -/
  | member (members : List (Literal × Json)) (key : Literal)

/-- What the tokens read so far leave open. -/
inductive Progress
  /-- A value comes next. -/
  | value (frames : List Frame)
  /-- The first item of an array, or its end. -/
  | firstItem (frames : List Frame)
  /-- A comma, or the end of an array. -/
  | moreItems (items : List Json) (frames : List Frame)
  /-- The first key of an object, or its end. -/
  | firstKey (frames : List Frame)
  /-- A key. -/
  | key (members : List (Literal × Json)) (frames : List Frame)
  /-- The colon after a key. -/
  | colon (members : List (Literal × Json)) (key : Literal) (frames : List Frame)
  /-- A comma, or the end of an object. -/
  | moreMembers (members : List (Literal × Json)) (frames : List Frame)
  /-- Nothing. -/
  | done (value : Json)

namespace Progress

/-- A whole value has been read. -/
def complete (value : Json) : List Frame → Progress
  | [] => done value
  | .array items :: frames => moreItems (value :: items) frames
  | .member members literal :: frames => moreMembers ((literal, value) :: members) frames

/-- A value begins. -/
def begin? (frames : List Frame) : Token → Option Progress
  | .null => some (complete .null frames)
  | .bool b => some (complete (.bool b) frames)
  | .number numeral => some (complete (.number numeral) frames)
  | .text literal => some (complete (.text literal) frames)
  | .openArray => some (firstItem frames)
  | .openObject => some (firstKey frames)
  | _ => none

/-- One token is read. -/
def step? : Progress → Token → Option Progress
  | value frames, token => begin? frames token
  | firstItem frames, token =>
      if token = .closeArray then some (complete (.array []) frames)
      else begin? (.array [] :: frames) token
  | moreItems items frames, .comma => some (value (.array items :: frames))
  | moreItems items frames, .closeArray => some (complete (.array items.reverse) frames)
  | firstKey frames, .text literal => some (colon [] literal frames)
  | firstKey frames, .closeObject => some (complete (.object []) frames)
  | key members frames, .text literal => some (colon members literal frames)
  | colon members literal frames, .colon => some (value (.member members literal :: frames))
  | moreMembers members frames, .comma => some (key members frames)
  | moreMembers members frames, .closeObject =>
      some (complete (.object members.reverse) frames)
  | _, _ => none

/-- The tokens are read one after the other. -/
def run? (progress : Progress) (tokens : List Token) : Option Progress :=
  tokens.foldlM step? progress

end Progress

/-- The value whose tokens these are. -/
def ofTokens? (tokens : List Token) : Option Json :=
  match Progress.run? (.value []) tokens with
  | some (.done value) => some value
  | _ => none

def parse? (text : String) : Option Json :=
  (tokens? text.toList).bind ofTokens?

end Json
end WorkloadIdentity
