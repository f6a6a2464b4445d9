import WorkloadIdentity.Json.Limits

/-!
# Which values are kept

A value is kept if its containers do not enclose each other too often and nothing in it is beyond
what a reader holds: its numbers are within the range of doubles, and its strings have texts.  The
two conditions have nothing to do with each other, and neither depends on what the value is read
as.

* `isKept_iff`: the limits apart, for the room that is left.
* `kept?_eq_some_iff`: the limits of a value inside other containers (`WithinLimits`).
-/

namespace WorkloadIdentity
namespace Json

mutual

/-- The number of containers of a value that enclose each other. -/
def nesting : Json → Nat
  | null | bool _ | number _ | text _ => 0
  | array items => itemsNesting items + 1
  | object members => membersNesting members + 1

/-- The greatest nesting among the items. -/
def itemsNesting : List Json → Nat
  | [] => 0
  | item :: items => max (nesting item) (itemsNesting items)

/-- The greatest nesting among the values of the members. -/
def membersNesting : List (Literal × Json) → Nat
  | [] => 0
  | (_, value) :: members => max (nesting value) (membersNesting members)

end

/-- A value whose numbers are within the range of doubles and whose strings have texts. -/
inductive Readable : Json → Prop
  | null : Readable .null
  | bool (value : Bool) : Readable (.bool value)
  | number {numeral : Numeral} (finite : numeral.isFinite = true) : Readable (.number numeral)
  | text (string : String) : Readable (.text (some string))
  | array {items : List Json} :
      (∀ item ∈ items, Readable item) →
      Readable (.array items)
  | object {members : List (Literal × Json)} :
      (∀ member ∈ members, member.1.isSome) →
      (∀ member ∈ members, Readable member.2) →
      Readable (.object members)

theorem readable_number_iff
    {numeral : Numeral} :
    (number numeral).Readable ↔ numeral.isFinite = true := by
  constructor
  · rintro ⟨⟩
    assumption
  · exact .number

theorem readable_text_iff
    {literal : Literal} :
    (text literal).Readable ↔ literal.isSome := by
  constructor
  · rintro ⟨⟩
    rfl
  · intro h
    obtain ⟨string, rfl⟩ := Option.isSome_iff_exists.mp h
    exact .text string

theorem readable_array_iff
    {items : List Json} :
    (array items).Readable ↔ ∀ item ∈ items, item.Readable := by
  constructor
  · rintro ⟨⟩
    assumption
  · exact .array

theorem readable_object_iff
    {members : List (Literal × Json)} :
    (object members).Readable ↔
      (∀ member ∈ members, member.1.isSome) ∧ ∀ member ∈ members, member.2.Readable := by
  constructor
  · intro h
    cases h with
    | object hkeys hvalues => exact ⟨hkeys, hvalues⟩
  · rintro ⟨hkeys, hvalues⟩
    exact .object hkeys hvalues

/-- A container takes up room for one. -/
theorem room_iff
    {nesting room : Nat} :
    0 < room ∧ nesting ≤ room - 1 ↔ nesting + 1 ≤ room := by
  omega

mutual

/-- A value is kept exactly if there is room for its containers and it is readable. -/
theorem isKept_iff
    (room : Nat) (json : Json) :
    json.isKept room = true ↔ json.nesting ≤ room ∧ json.Readable := by
  cases json with
  | null => simp [isKept, nesting, Readable.null]
  | bool value => simp [isKept, nesting, Readable.bool]
  | number numeral => simp [isKept, nesting, readable_number_iff]
  | text literal => simp [isKept, nesting, readable_text_iff]
  | array items =>
      rw [isKept, Bool.and_eq_true, decide_eq_true_eq, areKept_iff, nesting, readable_array_iff,
        ← and_assoc, room_iff]
  | object members =>
      rw [isKept, Bool.and_eq_true, decide_eq_true_eq, membersAreKept_iff, nesting,
        readable_object_iff, ← and_assoc, room_iff]

theorem areKept_iff
    (room : Nat) (items : List Json) :
    areKept room items = true ↔
      itemsNesting items ≤ room ∧ ∀ item ∈ items, item.Readable := by
  cases items with
  | nil => simp [areKept, itemsNesting]
  | cons item items =>
      rw [areKept, Bool.and_eq_true, isKept_iff, areKept_iff, itemsNesting, Nat.max_le,
        List.forall_mem_cons, and_and_and_comm]

theorem membersAreKept_iff
    (room : Nat) (members : List (Literal × Json)) :
    membersAreKept room members = true ↔
      membersNesting members ≤ room ∧
        (∀ member ∈ members, member.1.isSome) ∧ ∀ member ∈ members, member.2.Readable := by
  match members with
  | [] => simp [membersAreKept, membersNesting]
  | (key, value) :: members =>
      rw [membersAreKept, Bool.and_eq_true, Bool.and_eq_true, isKept_iff, membersAreKept_iff,
        membersNesting, Nat.max_le, List.forall_mem_cons, List.forall_mem_cons]
      constructor
      · rintro ⟨⟨hkey, hroom, hvalue⟩, hrooms, hkeys, hvalues⟩
        exact ⟨⟨hroom, hrooms⟩, ⟨hkey, hkeys⟩, hvalue, hvalues⟩
      · rintro ⟨⟨hroom, hrooms⟩, ⟨hkey, hkeys⟩, hvalue, hvalues⟩
        exact ⟨⟨hkey, hroom, hvalue⟩, hrooms, hkeys, hvalues⟩

end

/-- A value inside `depth` containers is within the limits of values that are kept. -/
structure WithinLimits
    (depth : Nat)
    (json : Json) : Prop where
  nesting : json.nesting ≤ maxNesting - depth
  readable : json.Readable

/-- A value is kept, as it is, exactly if it is within the limits. -/
theorem kept?_eq_some_iff
    {depth : Nat} {json kept : Json} :
    json.kept? depth = some kept ↔ kept = json ∧ json.WithinLimits depth := by
  have hlimits : json.isKept (maxNesting - depth) = true ↔ json.WithinLimits depth := by
    rw [isKept_iff]
    exact ⟨fun h => ⟨h.1, h.2⟩, fun h => ⟨h.nesting, h.readable⟩⟩
  rw [kept?]
  split
  · next h => simp [hlimits.mp h, eq_comm]
  · next h =>
    rw [hlimits] at h
    simp [h]

end Json
end WorkloadIdentity
