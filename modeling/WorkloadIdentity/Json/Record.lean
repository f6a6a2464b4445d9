import WorkloadIdentity.Json.Value
import WorkloadIdentity.Json.Numeral

/-!
# Records in JSON

A record with a fixed list of members is read from an object, which may hold other members too,
or from an array of the members in their order, which may stop early.
-/

namespace WorkloadIdentity

/-- What a document gives for one member of a record. -/
inductive Slot
  | given (value : Json)
  /-- An object without the member. -/
  | missing
  /-- An array that ends before the member. -/
  | cutOff

/-- The members of a record, by name. -/
structure Record where
  slot : String → Slot

namespace Record

variable {α : Type}

/-- A member that has to be there. -/
def required? (record : Record) (name : String) (read? : Json → Option α) : Option α :=
  match record.slot name with
  | .given value => read? value
  | .missing | .cutOff => none

/-- A member that may be null or absent; an array has to hold it. -/
def optional? (record : Record) (name : String) (read? : Json → Option α) : Option (Option α) :=
  match record.slot name with
  | .given .null => some none
  | .given value => (read? value).map some
  | .missing => some none
  | .cutOff => none

/-- A member that may be null or absent; an array may end before it. -/
def trailing? (record : Record) (name : String) (read? : Json → Option α) :
    Option (Option α) :=
  match record.slot name with
  | .given .null => some none
  | .given value => (read? value).map some
  | .missing | .cutOff => some none

/-- A member with a value for when it is absent; it may not be null. -/
def defaulted? (record : Record) (name : String) (absent : α) (read? : Json → Option α) :
    Option α :=
  match record.slot name with
  | .given value => read? value
  | .missing | .cutOff => some absent

end Record

namespace Json

/-- The values of the members with a given key. -/
def valuesOf (key : String) (members : List (Literal × Json)) : List Json :=
  (members.filter fun member => member.1 == some key).map Prod.snd

/-- The record with the given members that a value spells.  No member that belongs to it may be
given twice; other members count for nothing, but their keys must have a text. -/
def record? (names : List String) : Json → Option Record
  | object members =>
      if members.all (fun member => member.1.isSome)
          ∧ names.all (fun name => (valuesOf name members).length ≤ 1) then
        some ⟨fun name =>
          match valuesOf name members with
          | [] => .missing
          | value :: _ => .given value⟩
      else none
  | array items =>
      if items.length ≤ names.length then
        some ⟨fun name =>
          match items[names.idxOf name]? with
          | none => .cutOff
          | some value => .given value⟩
      else none
  | _ => none

def text? : Json → Option String
  | text literal => literal
  | _ => none

/-- The natural number of 64 bits that a value is. -/
def word? : Json → Option UInt64
  | number numeral => do
      let n ← numeral.toNat?
      if n < UInt64.size then some (UInt64.ofNat n) else none
  | _ => none

/-- The items of an array, each read in the same way. -/
def items? {α : Type} (read? : Json → Option α) : Json → Option (List α)
  | array items => items.mapM read?
  | _ => none

/-- A choice among names: the name itself, or an object whose only member it is, with null. -/
def choice? {α : Type} (ofName? : String → Option α) : Json → Option α
  | text literal => literal.bind ofName?
  | object [(key, null)] => key.bind ofName?
  | _ => none

def ofText (string : String) : Json :=
  text (some string)

/-- The number as it is written plainly. -/
def ofNat (n : Nat) : Json :=
  number (.ofNat n)

/-- The number as it is written plainly. -/
def ofWord (n : UInt64) : Json :=
  ofNat n.toNat

def member (key : String) (value : Json) : List (Literal × Json) :=
  [(some key, value)]

/-- A member that is left out when it has no value. -/
def memberOf {α : Type} (key : String) (write : α → Json) : Option α → List (Literal × Json)
  | none => []
  | some value => member key (write value)

end Json
end WorkloadIdentity
