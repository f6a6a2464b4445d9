import WorkloadIdentity.Text.Reader

/-!
# Tables of settings

What a settings file or the environment gives, before it is known which settings there are.  Names
do not depend on case.  A name may be a path into a table or an array.

* `find?_put_text`: a text that is put under a name is found under it.
-/

namespace WorkloadIdentity

/-- A value that is given for a setting.  Numbers and truth values are kept as texts; of
containers it only counts whether they are empty tables. -/
inductive Setting
  | text (value : String)
  | null
  | array
  | table (isEmpty : Bool)
  deriving DecidableEq, Repr

/-- A value of which the members are known if it is a table. -/
inductive Content
  | table (members : List (String × Setting))
  | other (setting : Setting)
  deriving DecidableEq, Repr

namespace Content

/-- What counts of a value inside of another one. -/
def setting : Content → Setting
  | table members => .table members.isEmpty
  | other setting => setting

/-- The settings of a document, whose outermost value is a table. -/
def members? : Content → Option (List (String × Setting))
  | table members => some members
  | other _ => none

end Content

/-- Values by name. -/
structure SettingTable where
  entries : List (String × Setting)
  deriving DecidableEq, Repr

namespace SettingTable

def empty : SettingTable :=
  ⟨[]⟩

def find? (table : SettingTable) (name : String) : Option Setting :=
  table.entries.lookup name

/-- The table with a value under a name.  An empty table that is put on a value leaves it. -/
def put (table : SettingTable) (name : String) (value : Setting) : SettingTable :=
  if value = .table true ∧ (table.find? name).isSome then table
  else ⟨(name, value) :: table.entries.filter fun entry => entry.1 ≠ name⟩

def isNameChar (c : Char) : Bool :=
  ('a' ≤ c && c ≤ 'z') || ('A' ≤ c && c ≤ 'Z') || ('0' ≤ c && c ≤ '9') || c == ' ' || c == '_'
    || c == '-'

/-- One step of a path; true where it leads into an array. -/
def step : Reader Bool :=
  Reader.either
    (do
      Reader.char '.'
      let _ ← Reader.run1 isNameChar
      return false)
    (do
      Reader.char '['
      let _ ← Reader.run (· == ' ')
      let _ ← Reader.run1 fun c => '0' ≤ c && c ≤ '9'
      let _ ← Reader.run (· == ' ')
      Reader.char ']'
      return true)

/-- A name with the steps behind it. -/
def path : Reader (List Char × List Bool) := do
  let name ← Reader.run1 isNameChar
  return (name, ← Reader.many step)

/-- The small letter for a letter of ASCII or for the Kelvin sign; no other character has a small
letter of ASCII, which all names of settings are made of. -/
def lowerChar (c : Char) : Char :=
  if c = '\u212A' then 'k' else c.toLower

/-- A name in small letters. -/
def lower (name : List Char) : String :=
  String.ofList (name.map lowerChar)

/-- The table with a value under what is read as a path, if it is one, or as a name.  Behind a
step the value makes a container of what stands under the path's name. -/
def putPath (table : SettingTable) (text : String) (value : Setting) : SettingTable :=
  match Reader.all? path text.toList with
  | some (name, true :: _) => table.put (lower name) .array
  | some (name, false :: _) => table.put (lower name) (.table false)
  | some (name, []) => table.put (lower name) value
  | none => table.put (lower text.toList) value

/-- The table with all values of another one on top of its own. -/
def putAll (table : SettingTable) (values : List (String × Setting)) : SettingTable :=
  values.foldl (fun table entry => table.putPath entry.1 entry.2) table

theorem find?_put_text
    (table : SettingTable) (name value : String) :
    (table.put name (.text value)).find? name = some (.text value) := by
  simp [put, find?]

end SettingTable
end WorkloadIdentity
