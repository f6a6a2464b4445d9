import WorkloadIdentity.Proofs.Http.Locations

/-!
# Published documents are read back

Sets of keys and discovery documents are read back from their documents.  A key on a curve is never
taken for an RSA key, although that shape is tried first: its document has no number.

* `JwkSet.ofJson?_toJson`: a set of keys is read back.
* `Discovery.ofJson?_toJson`: so is a discovery document.
-/

namespace WorkloadIdentity

/-- An array is read back if each of its items is. -/
theorem Json.items?_map
    {α : Type} {write : α → Json} {read? : Json → Option α}
    (h : ∀ item, read? (write item) = some item)
    (items : List α) :
    items? read? (.array (items.map write)) = some items := by
  rw [items?]
  induction items with
  | nil => rfl
  | cons item items ih =>
      rw [List.map_cons, List.mapM_cons, h, ih]
      rfl

namespace Jwk

theorem plain_toJson
    (key : Jwk) :
    key.toJson.Plain := by
  cases key <;>
    · refine Json.plain_object ?_
      repeat' apply Json.forall_append
      all_goals exact Json.plain_member (.ofText _)

/-- The document of a key is within the limits of values that are kept. -/
theorem kept?_toJson
    {depth : Nat}
    (key : Jwk)
    (hdepth : depth < Json.maxNesting) :
    key.toJson.kept? depth = some key.toJson := by
  have hroom : Json.maxNesting - depth = Json.maxNesting - depth - 1 + 1 := by omega
  rw [Json.kept?, hroom]
  cases key <;> simp [toJson, Json.isKept, Json.membersAreKept, Json.member, Json.ofText]

/-- The document of a key on a curve holds no RSA key. -/
theorem rsa?_ec
    (key : EcJwk) :
    rsa? (ec key).toJson = none := by
  simp [rsa?, toJson, Json.record?, Json.member, Json.valuesOf, Record.required?, Json.ofText,
    Json.text?]

/-- A key is read back from its document. -/
theorem ofJson?_toJson
    {depth : Nat}
    (key : Jwk)
    (hdepth : depth < Json.maxNesting) :
    ofJson? depth key.toJson = some key := by
  rw [ofJson?, kept?_toJson key hdepth]
  cases key with
  | rsa key =>
      simp [rsa?, toJson, Json.record?, Json.member, Json.valuesOf, Record.required?, Json.ofText,
        Json.text?]
  | ec key =>
      rw [Option.bind_eq_bind, Option.bind_some, rsa?_ec]
      simp [ec?, toJson, Json.record?, Json.member, Json.valuesOf, Record.required?, Json.ofText,
        Json.text?]

end Jwk

namespace JwkSet

theorem plain_toJson
    (set : JwkSet) :
    set.toJson.Plain := by
  refine Json.plain_object (Json.plain_member (.array ?_))
  intro item hitem
  obtain ⟨key, -, rfl⟩ := List.mem_map.mp hitem
  exact key.plain_toJson

/-- A set of keys is read back from its document. -/
theorem ofJson?_toJson
    (set : JwkSet) :
    ofJson? set.toJson = some set := by
  have hkeys := Json.items?_map (fun key => Jwk.ofJson?_toJson key
    (show 2 < Json.maxNesting by decide)) set.keys
  simp [ofJson?, toJson, Json.record?, Json.member, Json.valuesOf, Record.required?, hkeys]

end JwkSet

namespace Discovery

/-- A discovery document is read back from its document. -/
theorem ofJson?_toJson
    (document : Discovery) :
    ofJson? document.toJson = some document := by
  have htext (text : String) : Json.text? (.ofText text) = some text := rfl
  have htexts (texts : List String) : Json.items? Json.text? (textsToJson texts) = some texts :=
    Json.items?_map htext texts
  simp [ofJson?, toJson, Json.record?, Json.member, Json.valuesOf, Record.required?, htext, htexts]

end Discovery
end WorkloadIdentity
