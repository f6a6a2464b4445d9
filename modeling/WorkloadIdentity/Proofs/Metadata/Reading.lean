import WorkloadIdentity.Administration
import WorkloadIdentity.Proofs.Key.Shapes
import WorkloadIdentity.Proofs.Metadata.Documents
import WorkloadIdentity.Proofs.Token.Documents

/-!
# Every document is read back

All documents that are handed out are read back from their texts as the values that they were
written for: claims, discovery documents, sets of keys, findings, builds and providers.  A claim
without a value has no member in its document, and the document of a key holds a key of one shape
only.

* `Json.readsBack_of_plain`: what makes a document be read back.
* `documents_read_back`: the result.
-/

namespace WorkloadIdentity

/-- Every value is read back from the compact text of its document. -/
def Json.ReadsBack
    {α : Type}
    (write : α → Json)
    (read? : Json → Option α) : Prop :=
  ∀ value, (parse? (write value).compact).bind read? = some value

/-- Documents are read back if their texts are and their values are. -/
theorem Json.readsBack_of_plain
    {α : Type} {write : α → Json} {read? : Json → Option α}
    (hplain : ∀ value, (write value).Plain)
    (hread : ∀ value, read? (write value) = some value) :
    ReadsBack write read? := by
  intro value
  rw [parse?_compact (hplain value), Option.bind_some, hread]

namespace Finding

theorem plain_toJson
    (finding : Finding) :
    finding.toJson.Plain :=
  Json.plain_object (Json.forall_append (Json.plain_member (.ofText _))
    (Json.plain_member (.ofText _)))

/-- A finding is read back from its document. -/
theorem ofJson?_toJson
    (finding : Finding) :
    ofJson? finding.toJson = some finding := by
  cases finding <;>
    simp [ofJson?, toJson, kind, message, Json.record?, Json.member, Json.valuesOf,
      Record.required?, Json.ofText, Json.text?, Json.choice?, ofKind?]

end Finding

namespace Build

theorem plain_toJson
    (build : Build) :
    build.toJson.Plain :=
  Json.plain_object (Json.forall_append (Json.forall_append (Json.plain_member (.ofText _))
    (Json.plain_member (.ofNat _))) (Json.plain_member (.ofText _)))

/-- A build is read back from its document. -/
theorem ofJson?_toJson
    (build : Build) :
    ofJson? build.toJson = some build := by
  simp [ofJson?, toJson, Json.record?, Json.member, Json.valuesOf, Record.required?,
    Record.defaulted?, Json.ofText, Json.text?, Json.ofWord, Json.ofNat, Json.word?,
    UInt64.toNat_lt_size]

end Build

namespace Provider

theorem plain_toJson
    (provider : Provider) :
    provider.toJson.Plain :=
  Json.plain_object (Json.plain_member (.ofText _))

/-- A provider is read back from its document. -/
theorem ofJson?_toJson
    (provider : Provider) :
    ofJson? provider.toJson = some provider := by
  simp [ofJson?, toJson, Json.record?, Json.member, Json.valuesOf, Record.required?, Json.ofText,
    Json.text?]

end Provider

/-- The document of claims has the members of those claims that have a value. -/
theorem Claims.hasMember_toJson_iff
    (claims : Claims) :
    (claims.toJson.HasMember "aud" ↔ claims.audience.isSome = true) ∧
      (claims.toJson.HasMember "build_number" ↔ claims.buildNumber.isSome = true) := by
  obtain ⟨issuer, audience, expires, issuedAt, subject, buildNumber⟩ := claims
  cases audience <;> cases buildNumber <;>
    simp [toJson, Json.HasMember, Json.member, Json.memberOf]

/-- The document of an RSA key holds no key on a curve. -/
theorem Jwk.ec?_rsa
    (key : RsaJwk) :
    ec? (rsa key).toJson = none := by
  simp [ec?, toJson, Json.record?, Json.member, Json.valuesOf, Record.required?, Json.ofText,
    Json.text?]

/-- Claims, discovery documents, sets of keys and single keys, findings, builds and providers are
all read back from their texts as they were.  No claim without a value has a member in its text,
and no key is taken for one of the other shape, whatever stands in its members. -/
theorem documents_read_back :
    Json.ReadsBack Claims.toJson Claims.ofJson? ∧
    Json.ReadsBack Discovery.toJson Discovery.ofJson? ∧
    Json.ReadsBack JwkSet.toJson JwkSet.ofJson? ∧
    Json.ReadsBack Jwk.toJson (Jwk.ofJson? 0) ∧
    Json.ReadsBack Finding.toJson Finding.ofJson? ∧
    Json.ReadsBack Build.toJson Build.ofJson? ∧
    Json.ReadsBack Provider.toJson Provider.ofJson? ∧
    (∀ claims : Claims, ∃ json, Json.parse? claims.toJson.compact = some json ∧
      (json.HasMember "aud" ↔ claims.audience.isSome = true) ∧
      (json.HasMember "build_number" ↔ claims.buildNumber.isSome = true)) ∧
    (∀ key : RsaJwk, (Json.parse? (Jwk.rsa key).toJson.compact).bind Jwk.ec? = none) ∧
    ∀ key : EcJwk, (Json.parse? (Jwk.ec key).toJson.compact).bind Jwk.rsa? = none := by
  refine ⟨Json.readsBack_of_plain Claims.plain_toJson Claims.ofJson?_toJson,
    Json.readsBack_of_plain Discovery.plain_toJson Discovery.ofJson?_toJson,
    Json.readsBack_of_plain JwkSet.plain_toJson JwkSet.ofJson?_toJson,
    Json.readsBack_of_plain Jwk.plain_toJson fun key => key.ofJson?_toJson (by decide),
    Json.readsBack_of_plain Finding.plain_toJson Finding.ofJson?_toJson,
    Json.readsBack_of_plain Build.plain_toJson Build.ofJson?_toJson,
    Json.readsBack_of_plain Provider.plain_toJson Provider.ofJson?_toJson, ?_, ?_, ?_⟩
  · intro claims
    exact ⟨_, Json.parse?_compact claims.plain_toJson, claims.hasMember_toJson_iff⟩
  · intro key
    rw [Json.parse?_compact (Jwk.rsa key).plain_toJson, Option.bind_some, Jwk.ec?_rsa]
  · intro key
    rw [Json.parse?_compact (Jwk.ec key).plain_toJson, Option.bind_some, Jwk.rsa?_ec]

end WorkloadIdentity
