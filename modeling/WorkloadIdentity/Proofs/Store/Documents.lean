import WorkloadIdentity.Proofs.Json.Documents
import WorkloadIdentity.Store.File

/-!
# Stored documents are read back

The documents of key records, credentials, scopes and whole stores.  Only records of the legacy
shape have none; every other record is read back exactly, inside as many containers as a store
puts around it.

* `CredentialRecord.ofJson?_toJson?`: a credential is read back from its document.
* `StoreFile.ofText?_pretty`: a store is read back from its text.
* `StoreFile.toJson?_isSome_iff`: a store has a document exactly if it holds no legacy keys.
-/

namespace WorkloadIdentity

open Json (Plain)

namespace Json

theorem plain_member
    {key : String} {value : Json}
    (hvalue : value.Plain) :
    ∀ m ∈ member key value, m.1.isSome ∧ m.2.Plain := by
  intro m hm
  obtain rfl : m = (some key, value) := by simpa [member] using hm
  exact ⟨rfl, hvalue⟩

theorem plain_memberOf
    {α : Type} {key : String} {write : α → Json}
    (hwrite : ∀ value, (write value).Plain)
    (value : Option α) :
    ∀ m ∈ memberOf key write value, m.1.isSome ∧ m.2.Plain := by
  cases value with
  | none => simp [memberOf]
  | some value => exact plain_member (hwrite value)

/-- An object is plain if all of its members are. -/
theorem plain_object
    {members : List (Literal × Json)}
    (h : ∀ m ∈ members, m.1.isSome ∧ m.2.Plain) :
    (object members).Plain :=
  .object (fun m hm => (h m hm).1) fun m hm => (h m hm).2

theorem forall_append
    {α : Type} {p : α → Prop} {a b : List α}
    (ha : ∀ x ∈ a, p x)
    (hb : ∀ x ∈ b, p x) :
    ∀ x ∈ a ++ b, p x := by
  simpa [or_imp, forall_and] using ⟨ha, hb⟩

section Lists

variable {α : Type} {write : α → Option Json} {items : List α} {documents : List Json}

/-- A list is written item by item. -/
theorem mapM_cons_eq_some
    {item : α}
    (h : (item :: items).mapM write = some documents) :
    ∃ first rest, write item = some first ∧ items.mapM write = some rest ∧
      documents = first :: rest := by
  simp only [List.mapM_cons, Option.bind_eq_bind, Option.bind_eq_some_iff] at h
  obtain ⟨first, hfirst, rest, hrest, h⟩ := h
  cases h
  exact ⟨first, rest, hfirst, hrest, rfl⟩

theorem plain_of_mapM
    (hwrite : ∀ item document, write item = some document → document.Plain)
    (h : items.mapM write = some documents) :
    ∀ document ∈ documents, document.Plain := by
  induction items generalizing documents with
  | nil =>
      cases h
      simp
  | cons item items ih =>
      obtain ⟨first, rest, hfirst, hrest, rfl⟩ := mapM_cons_eq_some h
      have hplain := hwrite item first hfirst
      simpa [hplain] using ih hrest

/-- If each item is read back from its document, so is the list. -/
theorem mapM_of_mapM
    {read? : Json → Option α}
    (hread : ∀ item document, write item = some document → read? document = some item)
    (h : items.mapM write = some documents) :
    documents.mapM read? = some items := by
  induction items generalizing documents with
  | nil =>
      cases h
      rfl
  | cons item items ih =>
      obtain ⟨first, rest, hfirst, hrest, rfl⟩ := mapM_cons_eq_some h
      simp [List.mapM_cons, hread item first hfirst, ih hrest]

/-- A list has a document exactly if every item has one. -/
theorem mapM_isSome_iff :
    (items.mapM write).isSome ↔ ∀ item ∈ items, (write item).isSome := by
  induction items with
  | nil =>
      simp
  | cons item items ih =>
      rw [List.forall_mem_cons, ← ih, List.mapM_cons]
      cases write item <;> cases items.mapM write <;> simp

end Lists
end Json

namespace KeyRecord

theorem toJson?_isSome_iff
    {record : KeyRecord} :
    record.toJson?.isSome ↔ record.isLegacy = false := by
  cases record <;> simp [toJson?, isLegacy]

theorem plain_of_toJson?
    {record : KeyRecord} {json : Json}
    (h : record.toJson? = some json) :
    json.Plain := by
  cases record with
  | legacy privateKey => cases h
  | current keys =>
      cases h
      exact Json.plain_object (Json.forall_append (Json.forall_append
        (Json.plain_member (.ofText _)) (Json.plain_member (.ofText _)))
        (Json.plain_member (.ofText _)))

/-- The document of a key record is within the limits of values that are kept. -/
theorem kept?_of_toJson?
    {record : KeyRecord} {json : Json} {depth : Nat}
    (h : record.toJson? = some json)
    (hdepth : depth < Json.maxNesting) :
    json.kept? depth = some json := by
  cases record with
  | legacy privateKey => cases h
  | current keys =>
      cases h
      have hroom : Json.maxNesting - depth = Json.maxNesting - depth - 1 + 1 := by omega
      rw [Json.kept?, hroom]
      simp [Json.isKept, Json.membersAreKept, Json.member, Json.ofText]

/-- A key record is read back from its document. -/
theorem ofJson?_toJson?
    {record : KeyRecord} {json : Json} {depth : Nat}
    (h : record.toJson? = some json)
    (hdepth : depth < Json.maxNesting) :
    ofJson? depth json = some record := by
  rw [ofJson?, kept?_of_toJson? h hdepth]
  cases record with
  | legacy privateKey => cases h
  | current keys =>
      cases h
      simp [current?, Json.record?, Json.member, Json.valuesOf, Record.required?, Json.ofText,
        Json.text?]

/-- A legacy record is read from a document with the private key alone. -/
theorem ofJson?_legacy
    {depth : Nat}
    (secret : String)
    (hdepth : depth < Json.maxNesting) :
    ofJson? depth (.object (Json.member "privateKey" (.ofText secret))) = some (.legacy secret) := by
  have hkept : Json.kept? depth (.object (Json.member "privateKey" (.ofText secret)))
      = some (.object (Json.member "privateKey" (.ofText secret))) := by
    have hroom : Json.maxNesting - depth = Json.maxNesting - depth - 1 + 1 := by omega
    rw [Json.kept?, hroom]
    simp [Json.isKept, Json.membersAreKept, Json.member, Json.ofText]
  rw [ofJson?, hkept]
  simp [current?, legacy?, holdsPrivateKeyOnly, Json.record?, Json.member, Json.valuesOf,
    Record.required?, Json.ofText, Json.text?]

end KeyRecord

namespace CredentialRecord

theorem toJson?_isSome_iff
    {record : CredentialRecord} :
    record.toJson?.isSome ↔ record.keys.isLegacy = false := by
  rw [← KeyRecord.toJson?_isSome_iff]
  cases h : record.keys.toJson? <;> simp [toJson?, h]

theorem plain_of_toJson?
    {record : CredentialRecord} {json : Json}
    (h : record.toJson? = some json) :
    json.Plain := by
  simp only [toJson?, Option.bind_eq_bind, Option.bind_eq_some_iff] at h
  obtain ⟨keys, hkeys, h⟩ := h
  cases h
  have htext (key : String) (value : Option String) :
      ∀ m ∈ Json.memberOf key Json.ofText value, m.1.isSome ∧ m.2.Plain :=
    Json.plain_memberOf (fun string => .ofText string) value
  exact Json.plain_object (Json.forall_append (Json.forall_append (Json.forall_append
    (Json.forall_append (Json.plain_member (.ofText _)) (htext _ _)) (htext _ _)) (htext _ _))
    (Json.plain_member (KeyRecord.plain_of_toJson? hkeys)))

/-- A credential's record is read back from its document. -/
theorem ofJson?_toJson?
    {record : CredentialRecord} {json : Json} {depth : Nat}
    (h : record.toJson? = some json)
    (hdepth : depth + 1 < Json.maxNesting) :
    ofJson? depth json = some record := by
  simp only [toJson?, Option.bind_eq_bind, Option.bind_eq_some_iff] at h
  obtain ⟨keys, hkeys, h⟩ := h
  cases h
  have hread := KeyRecord.ofJson?_toJson? hkeys hdepth
  obtain ⟨id, description, issuer, audience, record⟩ := record
  cases description <;> cases issuer <;> cases audience <;>
    simp_all [ofJson?, Json.record?, Json.member, Json.memberOf, Json.valuesOf,
      Record.required?, Record.trailing?, Json.ofText, Json.text?]

end CredentialRecord

namespace ScopeRecord

theorem toJson?_isSome_iff
    {scope : ScopeRecord} :
    scope.toJson?.isSome ↔ ∀ record ∈ scope.credentials, record.keys.isLegacy = false := by
  have hlist : (scope.credentials.mapM CredentialRecord.toJson?).isSome
      ↔ ∀ record ∈ scope.credentials, record.keys.isLegacy = false := by
    simp only [Json.mapM_isSome_iff, CredentialRecord.toJson?_isSome_iff]
  rw [← hlist, toJson?]
  cases scope.credentials.mapM CredentialRecord.toJson? <;> simp

theorem plain_of_toJson?
    {scope : ScopeRecord} {json : Json}
    (h : scope.toJson? = some json) :
    json.Plain := by
  simp only [toJson?, Option.bind_eq_bind, Option.bind_eq_some_iff] at h
  obtain ⟨credentials, hcredentials, h⟩ := h
  cases h
  have hitems := Json.plain_of_mapM (fun _ _ => CredentialRecord.plain_of_toJson?) hcredentials
  exact Json.plain_object (Json.forall_append (Json.plain_member (.ofText _))
    (Json.plain_member (.array hitems)))

/-- A scope is read back from its document. -/
theorem ofJson?_toJson?
    {scope : ScopeRecord} {json : Json} {depth : Nat}
    (h : scope.toJson? = some json)
    (hdepth : depth + 3 < Json.maxNesting) :
    ofJson? depth json = some scope := by
  simp only [toJson?, Option.bind_eq_bind, Option.bind_eq_some_iff] at h
  obtain ⟨credentials, hcredentials, h⟩ := h
  cases h
  have hitems := Json.mapM_of_mapM
    (fun _ _ h => CredentialRecord.ofJson?_toJson? h hdepth) hcredentials
  simp [ofJson?, Json.record?, Json.member, Json.valuesOf, Record.defaulted?, Json.ofText,
    Json.text?, Json.items?, hitems]

end ScopeRecord

namespace StoreFile

/-- No record of the store has the legacy shape. -/
def IsCurrent (file : StoreFile) : Prop :=
  ∀ scope ∈ file.scopes, ∀ record ∈ scope.credentials, record.keys.isLegacy = false

/-- A store has a document exactly if it holds no legacy keys. -/
theorem toJson?_isSome_iff
    {file : StoreFile} :
    file.toJson?.isSome ↔ file.IsCurrent := by
  have hlist : (file.scopes.mapM ScopeRecord.toJson?).isSome ↔ file.IsCurrent := by
    simp only [Json.mapM_isSome_iff, ScopeRecord.toJson?_isSome_iff, IsCurrent]
  rw [← hlist, toJson?]
  cases file.scopes.mapM ScopeRecord.toJson? <;> simp

theorem plain_of_toJson?
    {file : StoreFile} {json : Json}
    (h : file.toJson? = some json) :
    json.Plain := by
  simp only [toJson?, Option.bind_eq_bind, Option.bind_eq_some_iff] at h
  obtain ⟨scopes, hscopes, h⟩ := h
  cases h
  have hitems := Json.plain_of_mapM (fun _ _ => ScopeRecord.plain_of_toJson?) hscopes
  exact Json.plain_object (Json.plain_member (.array hitems))

/-- A store is read back from its document. -/
theorem ofJson?_toJson?
    {file : StoreFile} {json : Json}
    (h : file.toJson? = some json) :
    ofJson? json = some file := by
  simp only [toJson?, Option.bind_eq_bind, Option.bind_eq_some_iff] at h
  obtain ⟨scopes, hscopes, h⟩ := h
  cases h
  have hdepth : 2 + 3 < Json.maxNesting := by decide
  have hitems := Json.mapM_of_mapM
    (fun _ _ h => ScopeRecord.ofJson?_toJson? h hdepth) hscopes
  simp [ofJson?, Json.record?, Json.member, Json.valuesOf, Record.defaulted?, Json.items?,
    hitems]

/-- A store is read back from the text that its file holds. -/
theorem ofText?_pretty
    {file : StoreFile} {json : Json}
    (h : file.toJson? = some json) :
    ofText? json.pretty = some file := by
  rw [ofText?, Json.parse?_pretty (plain_of_toJson? h), Option.bind_some, ofJson?_toJson? h]

/-- A text without brackets spells no store. -/
theorem ofText?_of_no_bracket
    {text : String}
    (h : ∀ c ∈ text.toList, Json.isBracket c = false) :
    ofText? text = none := by
  unfold ofText?
  cases hjson : Json.parse? text with
  | none => rfl
  | some json =>
      have hrecord := Json.record?_of_parse? hjson h ["scopes"]
      simp only [Option.bind_some, ofJson?, hrecord, Option.bind_eq_bind, Option.bind_none]

end StoreFile
end WorkloadIdentity
