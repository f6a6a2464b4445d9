/-!
# Tables of characters

Values attached to ranges of code points, written as text and looked up by bisection.  An entry of
a table's text is a code point or a range of them in hexadecimal, `41` or `41-5A`, and whatever
the table attaches to it; entries stand in ascending order between blanks.
-/

namespace WorkloadIdentity

structure CharEntry (α : Type) where
  first : Nat
  last : Nat
  value : α

/-- Values attached to ranges of code points, in ascending order. -/
structure CharTable (α : Type) where
  entries : Array (CharEntry α)

namespace CharTable

variable {α : Type}

/-- The last entry before position `high` that begins at or below the code point. -/
def search (entries : Array (CharEntry α)) (code low high : Nat) : Option (CharEntry α) :=
  if _h : low < high then
    let middle := (low + high) / 2
    match entries[middle]? with
    | none => none
    | some entry =>
        if entry.first ≤ code then (search entries code (middle + 1) high).or (some entry)
        else search entries code low middle
  else none
termination_by high - low

/-- The entry that a code point belongs to. -/
def find? (table : CharTable α) (code : Nat) : Option (CharEntry α) :=
  (search table.entries code 0 table.entries.size).filter fun entry => code ≤ entry.last

def value? (table : CharTable α) (c : Char) : Option α :=
  (table.find? c.toNat).map CharEntry.value

def contains (table : CharTable α) (c : Char) : Bool :=
  (table.find? c.toNat).isSome

end CharTable

/-- The words of a text, between blanks and line ends. -/
def words (text : String) : List (List Char) :=
  let (current, done) := text.toList.foldr (fun c (current, done) =>
    if c = ' ' ∨ c = '\n' then ([], if current = [] then done else current :: done)
    else (c :: current, done)) (([] : List Char), ([] : List (List Char)))
  if current = [] then done else current :: done

def tableDigit? (c : Char) : Option Nat :=
  if '0' ≤ c ∧ c ≤ '9' then some (c.toNat - 48)
  else if 'A' ≤ c ∧ c ≤ 'F' then some (c.toNat - 55)
  else none

/-- The number at the head of the characters, and the characters after it. -/
def tableNumber (total : Nat) : List Char → Nat × List Char
  | [] => (total, [])
  | c :: rest =>
      match tableDigit? c with
      | some digit => tableNumber (total * 16 + digit) rest
      | none => (total, c :: rest)

/-- The numbers between dots. -/
def tableNumbers (chars : List Char) : List Nat :=
  let (current, done) := chars.foldr (fun c (current, done) =>
    if c = '.' then ([], current :: done) else (c :: current, done))
    (([] : List Char), ([] : List (List Char)))
  (current :: done).map fun digits => (tableNumber 0 digits).1

/-- One entry of a table's text, its value read by the given function. -/
def CharEntry.ofChars {α : Type} (read : List Char → α) (chars : List Char) : CharEntry α :=
  let (first, rest) := tableNumber 0 chars
  match rest with
  | '-' :: rest =>
      let (last, rest) := tableNumber 0 rest
      ⟨first, last, read rest⟩
  | _ => ⟨first, first, read rest⟩

def CharTable.ofText {α : Type} (read : List Char → α) (text : String) : CharTable α :=
  ⟨((words text).map (CharEntry.ofChars read)).toArray⟩

/-- A set of characters, as a table without values. -/
abbrev CharSet := CharTable Unit

/-- The set that a text of ranges spells. -/
def CharSet.ofText (text : String) : CharSet :=
  CharTable.ofText (fun _ => ()) text

end WorkloadIdentity
