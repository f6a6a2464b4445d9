import WorkloadIdentity.Proofs.Store.Documents
import WorkloadIdentity.Token

/-!
# The documents of a token

The compact texts of a token's header and of its claims: the members in a fixed order, those
without a value left out, each string in quotation marks with its escapes.  Both documents are
read back from these texts.

* `Json.compact_object`: the compact text of an object.
* `Token.compact_header` and `Claims.compact_toJson`: the two texts.
* `Claims.ofJson?_toJson`: claims are read back from their document.
-/

namespace WorkloadIdentity

namespace Json

/-- A text in quotation marks, with its escapes. -/
def quoted (text : String) : String :=
  String.ofList (literalChars (some text))

/-- A member of an object, with the text of its value. -/
def memberText (member : String × String) : String :=
  quoted member.1 ++ ":" ++ member.2

/-- The text of an object whose members have the given texts. -/
def objectText (members : List (String × String)) : String :=
  "\x7b" ++ String.intercalate "," (members.map memberText) ++ "\x7d"

theorem compactChars_append
    (a b : List Token) :
    compactChars (a ++ b) = compactChars a ++ compactChars b :=
  List.flatMap_append

theorem compactChars_cons
    (token : Token) (tokens : List Token) :
    compactChars (token :: tokens) = token.chars ++ compactChars tokens :=
  List.flatMap_cons

/-- The text of a member is its key and the compact text of its value. -/
theorem toList_memberText
    (key : String) (value : Json) :
    (memberText (key, value.compact)).toList
      = literalChars (some key) ++ ':' :: compactChars value.tokens := by
  simp [memberText, quoted, compact]

/-- The members of an object are written in their order, with commas between them. -/
theorem compactChars_memberTokens
    (members : List (String × Json)) :
    compactChars (memberTokens (members.map fun member => (some member.1, member.2)))
      = (String.intercalate "," (members.map fun member =>
          memberText (member.1, member.2.compact))).toList ++ ['\x7d'] := by
  induction members with
  | nil => rfl
  | cons member members ih =>
      obtain ⟨key, value⟩ := member
      cases members with
      | nil =>
          simp only [List.map_cons, List.map_nil, memberTokens, compactChars_cons,
            compactChars_append, String.intercalate_singleton, toList_memberText]
          simp [Token.chars, compactChars]
      | cons next members =>
          simp only [List.map_cons] at ih ⊢
          rw [memberTokens_cons_cons]
          simp only [compactChars_cons, compactChars_append, ih, String.intercalate_cons_cons]
          simp [toList_memberText, Token.chars]

/-- The compact text of an object. -/
theorem compact_object
    (members : List (String × Json)) :
    (object (members.map fun member => (some member.1, member.2))).compact
      = objectText (members.map fun member => (member.1, member.2.compact)) := by
  rw [← String.toList_inj, compact, tokens, compactChars_cons, compactChars_memberTokens]
  simp [objectText, Token.chars, Function.comp_def]

theorem compact_ofText
    (text : String) :
    (ofText text).compact = quoted text := by
  simp [compact, ofText, tokens, compactChars, Token.chars, quoted]

theorem compact_ofWord
    (n : UInt64) :
    (ofWord n).compact = Decimal.text n.toNat := by
  simp [compact, ofWord, ofNat, tokens, compactChars, Token.chars, Numeral.toChars,
    Numeral.ofNat, Decimal.text]

end Json

namespace Token

/-- The text of the header with the name of an algorithm and the id of a key. -/
def headerText (name id : String) : String :=
  Json.objectText [("alg", Json.quoted name), ("kid", Json.quoted id)]

theorem compact_members
    (name id : String) :
    (Json.object (Json.member "alg" (.ofText name) ++ Json.member "kid" (.ofText id))).compact
      = headerText name id := by
  have hobject := Json.compact_object [("alg", .ofText name), ("kid", .ofText id)]
  simpa [headerText, Json.member, Json.compact_ofText] using hobject

theorem compact_header
    (credential : Credential) :
    (header credential).compact = headerText credential.algorithm.name credential.id :=
  compact_members _ _

/-- The name and the id are read back from the text of a header. -/
theorem parse?_headerText
    (name id : String) :
    Json.parse? (headerText name id)
      = some (.object [(some "alg", .ofText name), (some "kid", .ofText id)]) := by
  rw [← compact_members]
  exact Json.parse?_compact (Json.plain_object (Json.forall_append
    (Json.plain_member (.ofText _)) (Json.plain_member (.ofText _))))

/-- Quotation marks, control characters and characters beyond ASCII in the id of a key. -/
example :
    headerText "ES512" "a\"b\n\x01é"
      = "\x7b\"alg\":\"ES512\",\"kid\":\"a\\\"b\\n\\u0001é\"\x7d" := by
  decide +kernel

end Token

namespace Claims

/-- The members of the claims in their order, with the texts of their values. -/
def members (claims : Claims) : List (String × String) :=
  [("iss", Json.quoted claims.issuer)]
    ++ (claims.audience.map fun audience => ("aud", Json.quoted audience)).toList
    ++ [("exp", Decimal.text claims.expires.toNat), ("iat", Decimal.text claims.issuedAt.toNat),
      ("sub", Json.quoted claims.subject)]
    ++ (claims.buildNumber.map fun number => ("build_number", Decimal.text number.toNat)).toList

theorem compact_toJson
    (claims : Claims) :
    claims.toJson.compact = Json.objectText claims.members := by
  obtain ⟨issuer, audience, expires, issuedAt, subject, buildNumber⟩ := claims
  have hobject := Json.compact_object ([("iss", .ofText issuer)]
    ++ (audience.map fun audience => ("aud", Json.ofText audience)).toList
    ++ [("exp", .ofWord expires), ("iat", .ofWord issuedAt), ("sub", .ofText subject)]
    ++ (buildNumber.map fun number => ("build_number", Json.ofWord number)).toList)
  cases audience <;> cases buildNumber <;>
    simpa [toJson, members, Json.member, Json.memberOf, Json.compact_ofText, Json.compact_ofWord]
      using hobject

theorem plain_toJson
    (claims : Claims) :
    claims.toJson.Plain := by
  have hword (key : String) (number : UInt64) :
      ∀ m ∈ Json.member key (.ofWord number), m.1.isSome ∧ m.2.Plain :=
    Json.plain_member (.ofNat _)
  have haudience := @Json.plain_memberOf _ "aud" _ (fun text => .ofText text) claims.audience
  have hbuild := @Json.plain_memberOf UInt64 "build_number" _ (fun number => .ofNat number.toNat)
    claims.buildNumber
  exact Json.plain_object (Json.forall_append (Json.forall_append (Json.forall_append
    (Json.forall_append (Json.forall_append (Json.plain_member (.ofText _)) haudience)
    (hword _ _)) (hword _ _)) (Json.plain_member (.ofText _))) hbuild)

/-- Claims are read back from their document. -/
theorem ofJson?_toJson
    (claims : Claims) :
    ofJson? claims.toJson = some claims := by
  obtain ⟨issuer, audience, expires, issuedAt, subject, buildNumber⟩ := claims
  cases audience <;> cases buildNumber <;>
    simp [toJson, ofJson?, Json.record?, Json.member, Json.memberOf, Json.valuesOf,
      Record.required?, Record.optional?, Json.ofText, Json.text?, Json.ofWord, Json.ofNat,
      Json.word?, UInt64.toNat_lt_size]

/-- Claims are read back from their text. -/
theorem parse?_members
    (claims : Claims) :
    (Json.parse? (Json.objectText claims.members)).bind ofJson? = some claims := by
  rw [← compact_toJson, Json.parse?_compact claims.plain_toJson, Option.bind_some,
    ofJson?_toJson]

end Claims
end WorkloadIdentity
