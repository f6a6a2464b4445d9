/-!
# Readers

Readers of characters: each takes a beginning of the input and gives a value, or fails.
-/

namespace WorkloadIdentity

/-- A reader of a value from the beginning of the input. -/
abbrev Reader (α : Type) := StateT (List Char) Option α

namespace Reader

variable {α β : Type}

def rest : Reader (List Char) :=
  fun input => some (input, input)

def atEnd : Reader Bool :=
  fun input => some (input.isEmpty, input)

/-- The next character, which stays in the input. -/
def peek? : Reader (Option Char) :=
  fun input => some (input.head?, input)

/-- A character of a kind. -/
def one (p : Char → Bool) : Reader Char
  | [] => none
  | c :: input => if p c then some (c, input) else none

def any : Reader Char :=
  one fun _ => true

def char (c : Char) : Reader Unit
  | [] => none
  | d :: input => if c = d then some ((), input) else none

/-- A given text. -/
def word (text : String) : Reader Unit :=
  fun input =>
    if text.toList.isPrefixOf input then some ((), input.drop text.toList.length) else none

/-- The input goes on with a given text, which stays. -/
def sees (text : String) : Reader Bool :=
  fun input => some (text.toList.isPrefixOf input, input)

/-- The input begins with what a reader reads, which stays. -/
def follows (reader : Reader α) : Reader Bool :=
  fun input => some ((reader input).isSome, input)

/-- All characters of a kind up to the first that is not. -/
def run (p : Char → Bool) : Reader (List Char) :=
  fun input => some (input.takeWhile p, input.dropWhile p)

/-- All characters of a kind, of which there is at least one. -/
def run1 (p : Char → Bool) : Reader (List Char) := do
  let first ← one p
  return first :: (← run p)

/-- The value of a reader if it succeeds; nothing is taken if it fails. -/
def perhaps (reader : Reader α) : Reader (Option α) :=
  fun input =>
    match reader input with
    | some (value, left) => some (some value, left)
    | none => some (none, input)

/-- The first of two readers that succeeds. -/
def either (first second : Reader α) : Reader α :=
  fun input => (first input).or (second input)

/-- Values of a reader, as often as it succeeds and takes something. -/
def manyFrom (reader : Reader α) (input : List Char) : List α × List Char :=
  match reader input with
  | none => ([], input)
  | some (value, left) =>
      if left.length < input.length then
        let (values, left) := manyFrom reader left
        (value :: values, left)
      else ([], input)
termination_by input.length

/-- Values of a reader, as often as it succeeds and takes something. -/
def many (reader : Reader α) : Reader (List α) :=
  fun input => some (manyFrom reader input)

/-- A condition that must hold. -/
def check (condition : Bool) : Reader Unit :=
  fun input => if condition then some ((), input) else none

/-- A value that must be there. -/
def given (value : Option α) : Reader α :=
  fun input => value.map fun value => (value, input)

/-- The value that a reader finds in a whole text. -/
def all? (reader : Reader α) (input : List Char) : Option α :=
  match reader input with
  | some (value, []) => some value
  | _ => none

end Reader
end WorkloadIdentity
