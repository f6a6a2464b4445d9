import Mathlib.Data.List.Basic
import WorkloadIdentity.Json.Document
import WorkloadIdentity.Key.Record
import WorkloadIdentity.Proofs.Json.Limits

/-!
# Which of its two shapes a key record has

A stored value is tried as a record of the current shape, which may hold other members, and then
as a legacy record, which may not.  So a value that names an algorithm or a public key is never
taken for a legacy record, whatever else is wrong with it.  Before either is tried the value is
kept whole, so that a member that counts for nothing can still make it unreadable.

* `ofJson?_eq_some_iff`: a record is read exactly if the value is within the limits and has the
  record's shape.
* `classified`: which values are read, and as what.
-/

namespace WorkloadIdentity

namespace Json

/-- Exactly one of the members has the key, and its value is the text. -/
def GivesOnce
    (members : List (Literal × Json))
    (key string : String) : Prop :=
  members.filter (fun member => member.1 == some key) = [(some key, ofText string)]

variable {members : List (Literal × Json)} {names : List String} {key string : String}

theorem text?_eq_some_iff
    {json : Json} :
    json.text? = some string ↔ json = ofText string := by
  cases json <;> simp [text?, ofText]

/-- A key is given once as a text exactly if the text is all that is found under it. -/
theorem valuesOf_eq_singleton_iff :
    valuesOf key members = [ofText string] ↔ GivesOnce members key string := by
  rw [valuesOf, List.map_eq_singleton_iff]
  constructor
  · rintro ⟨⟨name, value⟩, hfilter, hvalue⟩
    obtain rfl : value = ofText string := hvalue
    have hmem : (name, ofText string) ∈ members.filter fun member => member.1 == some key := by
      rw [hfilter]
      exact List.mem_singleton_self _
    obtain rfl : name = some key := by simpa using (List.mem_filter.mp hmem).2
    exact hfilter
  · intro h
    exact ⟨_, h, rfl⟩

/-- A value is an object with a member of this key, whatever is under it. -/
def HasMember
    (key : String)
    (json : Json) : Prop :=
  ∃ members value, json = object members ∧ (some key, value) ∈ members

/-- What an object gives for the members of a record that it spells: a text, where the member is
given once and as this text. -/
theorem required?_text_of_object
    {record : Record}
    (hrecord : (object members).record? names = some record)
    (hkey : key ∈ names) :
    record.required? key text? = some string ↔ GivesOnce members key string := by
  rw [record?] at hrecord
  split at hrecord
  · next h =>
    cases hrecord
    have honce : (valuesOf key members).length ≤ 1 := by
      simpa using List.all_eq_true.mp h.2 key hkey
    rw [← valuesOf_eq_singleton_iff]
    cases hvalues : valuesOf key members with
    | nil => simp [Record.required?, hvalues]
    | cons value rest =>
        obtain rfl : rest = [] := by simpa [hvalues] using honce
        simp [Record.required?, hvalues, text?_eq_some_iff]
  · cases hrecord

/-- An object spells a record if all keys have texts and no member of the record is given
twice. -/
theorem exists_record?_object
    (hkeys : ∀ member ∈ members, member.1.isSome)
    (honce : ∀ name ∈ names, ∃ string, GivesOnce members name string) :
    ∃ record, (object members).record? names = some record := by
  rw [record?, if_pos]
  · exact ⟨_, rfl⟩
  · refine ⟨List.all_eq_true.mpr hkeys, List.all_eq_true.mpr ?_⟩
    intro name hname
    obtain ⟨string, hgives⟩ := honce name hname
    simp [valuesOf_eq_singleton_iff.mpr hgives]

/-- What an array gives for the members of a record that it spells: a text, where this text stands
in the member's place. -/
theorem required?_text_of_array
    {items : List Json} {record : Record}
    (hrecord : (array items).record? names = some record) :
    record.required? key text? = some string ↔
      items[names.idxOf key]? = some (ofText string) := by
  rw [record?] at hrecord
  split at hrecord
  · cases hrecord
    cases hitem : items[names.idxOf key]? with
    | none => simp [Record.required?, hitem]
    | some value => simp [Record.required?, hitem, text?_eq_some_iff]
  · cases hrecord

/-- An array that spells a record has no item too many. -/
theorem length_le_of_record?_array
    {items : List Json} {record : Record}
    (hrecord : (array items).record? names = some record) :
    items.length ≤ names.length := by
  rw [record?] at hrecord
  split at hrecord
  · assumption
  · cases hrecord

end Json

namespace KeyRecord

open Json (GivesOnce)

/-- A value has the current shape: an object that gives each of the three members once and as a
text, or the three texts in an array. -/
inductive SpellsCurrent (keys : SealedKeys) : Json → Prop
  | object {members : List (Literal × Json)}
      (algorithm : GivesOnce members "algorithm" keys.algorithm)
      (privateKey : GivesOnce members "privateKey" keys.privateKey)
      (publicKey : GivesOnce members "publicKey" keys.publicKey) :
      SpellsCurrent keys (.object members)
  | array :
      SpellsCurrent keys
        (.array [.ofText keys.algorithm, .ofText keys.privateKey, .ofText keys.publicKey])

/-- A value has the legacy shape: an object with one member, the private key as a text, or the
text in an array. -/
inductive SpellsLegacy (privateKey : String) : Json → Prop
  | object : SpellsLegacy privateKey (.object [(some "privateKey", .ofText privateKey)])
  | array : SpellsLegacy privateKey (.array [.ofText privateKey])

/-- A value has the shape of a record. -/
def Spells : KeyRecord → Json → Prop
  | current keys => SpellsCurrent keys
  | legacy privateKey => SpellsLegacy privateKey

theorem current?_object_iff
    {members : List (Literal × Json)} {record : KeyRecord}
    (hmembers : ∀ member ∈ members, member.1.isSome) :
    current? (.object members) = some record ↔
      ∃ keys, record = current keys ∧ SpellsCurrent keys (.object members) := by
  constructor
  · intro h
    simp only [current?, Option.bind_eq_bind, Option.bind_eq_some_iff, Option.pure_def,
      Option.some.injEq] at h
    obtain ⟨found, hfound, algorithm, halgorithm, privateKey, hprivate, publicKey, hpublic, rfl⟩ :=
      h
    exact ⟨_, rfl, .object
      ((Json.required?_text_of_object hfound (by decide)).mp halgorithm)
      ((Json.required?_text_of_object hfound (by decide)).mp hprivate)
      ((Json.required?_text_of_object hfound (by decide)).mp hpublic)⟩
  · rintro ⟨keys, rfl, h⟩
    cases h with
    | object halgorithm hprivate hpublic =>
        obtain ⟨found, hfound⟩ := @Json.exists_record?_object members
          ["algorithm", "privateKey", "publicKey"] hmembers (by
            simp only [List.forall_mem_cons]
            exact ⟨⟨_, halgorithm⟩, ⟨_, hprivate⟩, ⟨_, hpublic⟩, by simp⟩)
        have halgorithm := (Json.required?_text_of_object hfound (by decide)).mpr halgorithm
        have hprivate := (Json.required?_text_of_object hfound (by decide)).mpr hprivate
        have hpublic := (Json.required?_text_of_object hfound (by decide)).mpr hpublic
        simp only [current?, hfound, halgorithm, hprivate, hpublic, Option.bind_eq_bind,
          Option.bind_some]
        rfl

theorem current?_array_iff
    {items : List Json} {record : KeyRecord} :
    current? (.array items) = some record ↔
      ∃ keys, record = current keys ∧ SpellsCurrent keys (.array items) := by
  constructor
  · intro h
    simp only [current?, Option.bind_eq_bind, Option.bind_eq_some_iff, Option.pure_def,
      Option.some.injEq] at h
    obtain ⟨found, hfound, algorithm, halgorithm, privateKey, hprivate, publicKey, hpublic, rfl⟩ :=
      h
    have hfirst := (Json.required?_text_of_array hfound).mp halgorithm
    have hsecond := (Json.required?_text_of_array hfound).mp hprivate
    have hthird := (Json.required?_text_of_array hfound).mp hpublic
    have hlong := (List.getElem?_eq_some_iff.mp hthird).1
    have hshort := Json.length_le_of_record?_array hfound
    obtain ⟨a, b, c, rfl⟩ := List.length_eq_three.mp (show items.length = 3 from
      Nat.le_antisymm hshort hlong)
    obtain rfl : a = .ofText algorithm := Option.some.inj hfirst
    obtain rfl : b = .ofText privateKey := Option.some.inj hsecond
    obtain rfl : c = .ofText publicKey := Option.some.inj hthird
    exact ⟨_, rfl, .array⟩
  · rintro ⟨keys, rfl, h⟩
    cases h with
    | array => rfl

/-- The current shape is read exactly where a value has it, if all keys have texts. -/
theorem current?_eq_some_iff
    {json : Json} {record : KeyRecord}
    (hreadable : json.Readable) :
    current? json = some record ↔ ∃ keys, record = current keys ∧ SpellsCurrent keys json := by
  cases json with
  | object members => exact current?_object_iff (Json.readable_object_iff.mp hreadable).1
  | array items => exact current?_array_iff
  | _ =>
      refine iff_of_false (fun h => by cases h) ?_
      rintro ⟨keys, -, ⟨⟩⟩

/-- Members with no key but one, given once, are a single member. -/
theorem eq_singleton_of_givesOnce
    {members : List (Literal × Json)} {key string : String}
    (honly : ∀ member ∈ members, member.1 = some key)
    (honce : GivesOnce members key string) :
    members = [(some key, .ofText string)] := by
  rw [← honce]
  refine (List.filter_eq_self.mpr ?_).symm
  intro member hmember
  rw [honly member hmember]
  exact beq_self_eq_true _

/-- The legacy shape is read exactly where a value has it. -/
theorem legacy?_eq_some_iff
    {json : Json} {record : KeyRecord} :
    legacy? json = some record ↔
      ∃ privateKey, record = legacy privateKey ∧ SpellsLegacy privateKey json := by
  constructor
  · intro h
    simp only [legacy?, Option.bind_eq_bind, Option.bind_eq_some_iff] at h
    obtain ⟨found, hfound, h⟩ := h
    split at h
    · next honly =>
      obtain ⟨privateKey, hprivate, h⟩ := Option.bind_eq_some_iff.mp h
      cases h
      refine ⟨privateKey, rfl, ?_⟩
      cases json with
      | object members =>
          have honce := (Json.required?_text_of_object hfound (by decide)).mp hprivate
          obtain rfl := eq_singleton_of_givesOnce
            (fun member hmember => by simpa using List.all_eq_true.mp honly member hmember) honce
          exact .object
      | array items =>
          have hfirst := (Json.required?_text_of_array hfound).mp hprivate
          have hshort := Json.length_le_of_record?_array hfound
          have hlong := (List.getElem?_eq_some_iff.mp hfirst).1
          obtain ⟨item, rfl⟩ := List.length_eq_one_iff.mp (Nat.le_antisymm hshort hlong)
          obtain rfl : item = .ofText privateKey := Option.some.inj hfirst
          exact .array
      | _ => cases hfound
    · cases h
  · rintro ⟨privateKey, rfl, h⟩
    cases h with
    | object => rfl
    | array => rfl

/-- No value has both shapes. -/
theorem not_spellsLegacy_of_spellsCurrent
    {keys : SealedKeys} {privateKey : String} {json : Json}
    (hcurrent : SpellsCurrent keys json) :
    ¬ SpellsLegacy privateKey json := by
  intro hlegacy
  cases hlegacy with
  | object =>
      cases hcurrent with
      | object halgorithm hprivate hpublic => cases halgorithm
  | array => cases hcurrent

/-- A record is read exactly if the value is within the limits of values that are kept and has the
record's shape. -/
theorem ofJson?_eq_some_iff
    {depth : Nat} {json : Json} {record : KeyRecord} :
    ofJson? depth json = some record ↔
      json.WithinLimits depth ∧ record.Spells json := by
  simp only [ofJson?, Option.bind_eq_bind, Option.bind_eq_some_iff, Json.kept?_eq_some_iff]
  constructor
  · rintro ⟨_, ⟨rfl, hlimits⟩, h⟩
    refine ⟨hlimits, ?_⟩
    rcases Option.or_eq_some_iff.mp h with h | ⟨-, h⟩
    · obtain ⟨keys, rfl, hspells⟩ := (current?_eq_some_iff hlimits.readable).mp h
      exact hspells
    · obtain ⟨privateKey, rfl, hspells⟩ := legacy?_eq_some_iff.mp h
      exact hspells
  · rintro ⟨hlimits, hspells⟩
    refine ⟨json, ⟨rfl, hlimits⟩, Option.or_eq_some_iff.mpr ?_⟩
    cases record with
    | current keys =>
        exact Or.inl ((current?_eq_some_iff hlimits.readable).mpr ⟨keys, rfl, hspells⟩)
    | legacy privateKey =>
        refine Or.inr ⟨?_, legacy?_eq_some_iff.mpr ⟨privateKey, rfl, hspells⟩⟩
        rw [Option.eq_none_iff_forall_ne_some]
        intro found hfound
        obtain ⟨keys, -, hcurrent⟩ := (current?_eq_some_iff hlimits.readable).mp hfound
        exact not_spellsLegacy_of_spellsCurrent hcurrent hspells

theorem ofJson?_eq_none_iff
    {depth : Nat} {json : Json} :
    ofJson? depth json = none ↔
      ¬ json.WithinLimits depth ∨ ∀ record : KeyRecord, ¬ record.Spells json := by
  simp only [Option.eq_none_iff_forall_ne_some, ne_eq, ofJson?_eq_some_iff, not_and]
  by_cases hlimits : json.WithinLimits depth
  · simp [hlimits]
  · simp [hlimits]

/-- A value of the legacy shape has no member but the private key. -/
theorem SpellsLegacy.eq_of_hasMember
    {privateKey key : String} {json : Json}
    (h : SpellsLegacy privateKey json)
    (hmember : json.HasMember key) :
    key = "privateKey" := by
  obtain ⟨members, value, rfl, hvalue⟩ := hmember
  cases h with
  | object =>
      obtain ⟨hkey, -⟩ := Prod.mk.inj (List.mem_singleton.mp hvalue)
      exact Option.some.inj hkey

/-- The shape of a value says whether its record is a legacy one. -/
theorem Spells.isLegacy_iff
    {record : KeyRecord} {json : Json}
    (h : record.Spells json) :
    (record.isLegacy = true ↔ ∃ privateKey, SpellsLegacy privateKey json) ∧
      (record.isLegacy = false ↔ ∃ keys, SpellsCurrent keys json) := by
  cases record with
  | current keys =>
      refine ⟨iff_of_false Bool.noConfusion ?_, iff_of_true rfl ⟨keys, h⟩⟩
      rintro ⟨privateKey, hlegacy⟩
      exact not_spellsLegacy_of_spellsCurrent h hlegacy
  | legacy privateKey =>
      refine ⟨iff_of_true rfl ⟨privateKey, h⟩, iff_of_false Bool.noConfusion ?_⟩
      rintro ⟨keys, hcurrent⟩
      exact not_spellsLegacy_of_spellsCurrent hcurrent h

/-- A value is a record of the current shape exactly if it gives its three texts, and a legacy
record exactly if it gives the private key and nothing else; whatever has neither shape, or is
beyond the limits of values that are kept, is no record.  So nothing that names an algorithm or a
public key is taken for a legacy record, and a record that is read says which shape it had. -/
theorem classified
    (depth : Nat) (json : Json) :
    (∀ keys, ofJson? depth json = some (current keys) ↔
        json.WithinLimits depth ∧ SpellsCurrent keys json) ∧
      (∀ privateKey, ofJson? depth json = some (legacy privateKey) ↔
        json.WithinLimits depth ∧ SpellsLegacy privateKey json) ∧
      (ofJson? depth json = none ↔
        ¬ json.WithinLimits depth ∨ ∀ record : KeyRecord, ¬ record.Spells json) ∧
      (json.HasMember "algorithm" ∨ json.HasMember "publicKey" →
        ∀ privateKey, ofJson? depth json ≠ some (legacy privateKey)) ∧
      ∀ record, ofJson? depth json = some record →
        (record.isLegacy = true ↔ ∃ privateKey, SpellsLegacy privateKey json) ∧
          (record.isLegacy = false ↔ ∃ keys, SpellsCurrent keys json) := by
  refine ⟨fun _ => ofJson?_eq_some_iff, fun _ => ofJson?_eq_some_iff, ofJson?_eq_none_iff, ?_, ?_⟩
  · intro hmember privateKey hrecord
    have hlegacy : SpellsLegacy privateKey json := (ofJson?_eq_some_iff.mp hrecord).2
    rcases hmember with hmember | hmember
    · exact absurd (hlegacy.eq_of_hasMember hmember) (by decide)
    · exact absurd (hlegacy.eq_of_hasMember hmember) (by decide)
  · intro record hrecord
    exact (ofJson?_eq_some_iff.mp hrecord).2.isLegacy_iff

/-- A record of the current shape with one more member. -/
def withNote (note : Json) : Json :=
  .object [(some "algorithm", .ofText "ES256"), (some "privateKey", .ofText "a"),
    (some "publicKey", .ofText "b"), (some "note", note)]

theorem spellsCurrent_withNote
    (note : Json) :
    SpellsCurrent ⟨"ES256", "a", "b"⟩ (withNote note) :=
  .object rfl rfl rfl

/-- A record with an empty note is within the limits and is read as one of the current shape, and
not as a legacy one. -/
theorem noted_record_classified :
    Json.WithinLimits 0 (withNote .null) ∧
      ofJson? 0 (withNote .null) = some (current ⟨"ES256", "a", "b"⟩) ∧
      (withNote .null).HasMember "algorithm" ∧
      ∀ privateKey, ofJson? 0 (withNote .null) ≠ some (legacy privateKey) := by
  have hlimits : Json.WithinLimits 0 (withNote .null) :=
    (Json.kept?_eq_some_iff.mp (show (withNote .null).kept? 0 = some (withNote .null) from rfl)).2
  have hmember : (withNote .null).HasMember "algorithm" := ⟨_, _, rfl, List.mem_cons_self⟩
  obtain ⟨hcurrent, -, -, hnot, -⟩ := classified 0 (withNote .null)
  exact ⟨hlimits, (hcurrent _).mpr ⟨hlimits, spellsCurrent_withNote _⟩, hmember,
    hnot (Or.inl hmember)⟩

/-- The text of such a record, with the text of its note. -/
def noteText (note : String) : String :=
  "\x7b\"algorithm\":\"ES256\",\"privateKey\":\"a\",\"publicKey\":\"b\",\"note\":" ++ note ++ "\x7d"

theorem parse?_noteText
    {text : String} {note : Json}
    (htokens : Json.tokens? (noteText text).toList = some (withNote note).tokens)
    (hread : Json.ofTokens? (withNote note).tokens = some (withNote note)) :
    Json.parse? (noteText text) = some (withNote note) := by
  rw [Json.parse?, htokens, Option.bind_some, hread]

/-- A note that counts for nothing still makes a record unreadable if it is a number beyond the
range of doubles or a lone surrogate. -/
theorem unreadable_note_refused :
    ∃ huge lone,
      Json.parse? (noteText "1e999") = some huge ∧
      Json.parse? (noteText "\"\\ud800\"") = some lone ∧
      ∀ json ∈ [huge, lone],
        json.nesting = 1 ∧ SpellsCurrent ⟨"ES256", "a", "b"⟩ json ∧ ofJson? 0 json = none := by
  refine ⟨withNote (.number { whole := ['1'], exponent := some 999 }), withNote (.text none),
    parse?_noteText (by decide +kernel) rfl, parse?_noteText (by decide +kernel) rfl, ?_⟩
  simp only [List.forall_mem_cons]
  exact ⟨⟨rfl, spellsCurrent_withNote _, by decide +kernel⟩,
    ⟨rfl, spellsCurrent_withNote _, by decide +kernel⟩, by simp⟩

end KeyRecord
end WorkloadIdentity
