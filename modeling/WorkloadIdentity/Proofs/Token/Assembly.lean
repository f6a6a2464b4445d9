import WorkloadIdentity.Proofs.Command.Issuing
import WorkloadIdentity.Proofs.Key.Signatures
import WorkloadIdentity.Proofs.Text.Spellings
import WorkloadIdentity.Proofs.Token.Documents

/-!
# The format of tokens

A token is put together in one of two ways, by a general encoder or, for the largest curve, by
hand.  Both give the same three parts with dots between them: the header, the claims, and a
signature of the first two parts, each written in base64 for URLs without padding.

The general encoder is a parameter: all that is used of it is which header it writes, and that it
signs header and claims and joins the signature to them.

* `Token.assemble_eq`: both ways give the same text.
* `Token.sign_serialized`: what the text of a token is.
-/

namespace WorkloadIdentity

namespace Token

variable {credential : Credential} {claims : Claims} {token : Token} {entropy rest : Entropy}

/-- A document as a part of a token. -/
def documentPart (json : Json) : String :=
  part (Bytes.ofText json.compact)

/-- The header that a general encoder writes; members that are not set are left out. -/
structure Header where
  typ : Option String
  alg : String
  kid : Option String

namespace Header

/-- The header that an encoder starts from. -/
def ofAlgorithm (algorithm : Algorithm) : Header :=
  ⟨some "JWT", algorithm.name, none⟩

def toJson (header : Header) : Json :=
  .object (Json.memberOf "typ" Json.ofText header.typ
    ++ Json.member "alg" (.ofText header.alg)
    ++ Json.memberOf "kid" Json.ofText header.kid)

/-- What is signed under a header. -/
def message (header : Header) (claims : Claims) : String :=
  documentPart header.toJson ++ "." ++ documentPart claims.toJson

end Header

/-- A general encoder of tokens.  It signs header and claims, and joins the signature to them; where
this is not signed, there is no token. -/
structure Encoder where
  encode (header : Header) (claims : Claims) (signer : Bytes → Except TokenFault Bytes) :
    Except TokenFault String
  joins {header : Header} {claims : Claims} {signer : Bytes → Except TokenFault Bytes}
      {signature : Bytes} (h : signer (Bytes.ofText (header.message claims)) = .ok signature) :
    encode header claims signer = .ok (header.message claims ++ "." ++ part signature)
  fails {header : Header} {claims : Claims} {signer : Bytes → Except TokenFault Bytes}
      {fault : TokenFault} (h : signer (Bytes.ofText (header.message claims)) = .error fault) :
    encode header claims signer = .error fault

/-- The encoder that joins the parts one after the other. -/
def Encoder.joining : Encoder where
  encode header claims signer := do
    let message := String.intercalate "." [documentPart header.toJson, documentPart claims.toJson]
    let signature ← signer (Bytes.ofText message)
    return String.intercalate "." [message, part signature]
  joins h := by
    change (_ >>= _ : Except TokenFault String) = _
    exact congrArg (· >>= _) h
  fails h := congrArg (· >>= _) h

/-- The text of a token for the largest curve. -/
def encodeByHand (credential : Credential) (claims : Claims) (fresh : Bytes) :
    Except TokenFault String := do
  let header : Json := .object (Json.member "alg" (.ofText Algorithm.es512.name)
    ++ Json.member "kid" (.ofText credential.id))
  let message := documentPart header ++ "." ++ documentPart claims.toJson
  let signature ← (credential.pair.sign (Bytes.ofText message) fresh).mapError .key
  return message ++ "." ++ part signature

/-- The text of a token, put together in the way of the credential's algorithm. -/
def assemble (encoder : Encoder) (credential : Credential) (claims : Claims) (fresh : Bytes) :
    Except TokenFault String :=
  match credential.algorithm with
  | .es512 => encodeByHand credential claims fresh
  | algorithm =>
      encoder.encode { Header.ofAlgorithm algorithm with typ := none, kid := some credential.id }
        claims fun message => Token.signature credential message fresh

theorem Encoder.encode_eq
    {algorithm : Algorithm}
    (encoder : Encoder)
    (h : credential.algorithm = algorithm)
    (claims : Claims) (signer : Bytes → Except TokenFault Bytes) :
    encoder.encode { Header.ofAlgorithm algorithm with typ := none, kid := some credential.id }
        claims signer
      = (signer (Bytes.ofText (signedText credential claims))).map fun signature =>
          (ofSignature credential claims signature).text := by
  have hmessage : ({ Header.ofAlgorithm algorithm with
      typ := none, kid := some credential.id } : Header).message claims
        = signedText credential claims := by
    rw [← h]
    rfl
  cases hsigner : signer (Bytes.ofText (signedText credential claims)) with
  | error fault =>
      rw [← hmessage] at hsigner
      exact encoder.fails hsigner
  | ok signature =>
      rw [← hmessage] at hsigner
      rw [encoder.joins hsigner, hmessage]
      rfl

/-- On the largest curve a token is signed without further checks. -/
theorem signature_of_es512
    (h : credential.algorithm = .es512)
    (message fresh : Bytes) :
    Token.signature credential message fresh
      = (credential.pair.sign message fresh).mapError .key := by
  cases hmaterial : credential.pair.material with
  | rsa key consistent publishable =>
      have hfits := credential.pair.fits
      rw [hmaterial, show credential.pair.algorithm = .es512 from h] at hfits
      cases hfits
  | ec curve key => rw [Token.signature, hmaterial]

theorem encodeByHand_eq
    (h : credential.algorithm = .es512)
    (claims : Claims) (fresh : Bytes) :
    encodeByHand credential claims fresh
      = (Token.signature credential (Bytes.ofText (signedText credential claims)) fresh).map
          fun signature => (ofSignature credential claims signature).text := by
  have hmessage : documentPart (.object (Json.member "alg" (.ofText Algorithm.es512.name)
      ++ Json.member "kid" (.ofText credential.id))) ++ "." ++ documentPart claims.toJson
        = signedText credential claims := by
    rw [← h]
    rfl
  simp only [encodeByHand, hmessage, signature_of_es512 h]
  cases credential.pair.sign (Bytes.ofText (signedText credential claims)) fresh <;> rfl

/-- Both ways to put a token together give the text of the signed token. -/
theorem assemble_eq
    (encoder : Encoder) (credential : Credential) (claims : Claims) (fresh : Bytes) :
    assemble encoder credential claims fresh
      = (Token.signature credential (Bytes.ofText (signedText credential claims)) fresh).map
          fun signature => (ofSignature credential claims signature).text := by
  unfold assemble
  split
  · next h => exact encodeByHand_eq h claims fresh
  · exact encoder.encode_eq rfl claims _

/-- A token's signature is one of its credential's key pair. -/
theorem sign_of_signature
    {message fresh signature : Bytes}
    (h : Token.signature credential message fresh = .ok signature) :
    credential.pair.sign message fresh = .ok signature := by
  unfold Token.signature at h
  split at h
  · split at h
    · cases h
    · split at h
      · cases h
      · split at h
        · cases h
        · next hsign =>
          cases h
          exact hsign
  · cases hsign : credential.pair.sign message fresh with
    | error fault =>
        rw [hsign] at h
        cases h
    | ok found =>
        rw [hsign] at h
        cases h
        rfl

/-- The bytes are what the key pair of a credential gives out as a signature of a text with some
fresh bytes.  They solve the equation of the scheme of the credential's algorithm under the key of
the pair, and have the size that algorithm and key ask for. -/
structure SignedBy (credential : Credential) (text : String) (fresh signature : Bytes) : Prop where
  sign_eq : credential.pair.sign (Bytes.ofText text) fresh = .ok signature
  signed : credential.pair.Signed (Bytes.ofText text) signature
  size_eq : credential.algorithm.signatureSize? credential.pair.publicKey = some signature.length

theorem signedBy_of_signature
    {text : String} {fresh signature : Bytes}
    (h : Token.signature credential (Bytes.ofText text) fresh = .ok signature) :
    SignedBy credential text fresh signature :=
  have hsign := sign_of_signature h
  have hsigned := KeyPair.signed_of_sign hsign
  ⟨hsign, hsigned, hsigned.size_eq⟩

/-- A text is a token of a credential with some claims: three parts with dots between them, which
spell the header, the claims and a signature of the first two parts with their dot. -/
structure Serialized
    (credential : Credential)
    (claims : Claims)
    (fresh : Bytes)
    (text header payload last : String) : Prop where
  text_eq : text = header ++ "." ++ payload ++ "." ++ last
  parts : text.toList.splitOn '.' = [header.toList, payload.toList, last.toList]
  spelled : ∀ piece ∈ [header, payload, last], piece ≠ "" ∧
    ∀ c ∈ piece.toList, (Base64.value? .urlSafe c).isSome
  header_decodes : Base64.decode .urlSafe header
    = some (Bytes.ofText (headerText credential.algorithm.name credential.id))
  header_reads : Json.parse? (headerText credential.algorithm.name credential.id)
    = some (.object [(some "alg", .ofText credential.algorithm.name),
      (some "kid", .ofText credential.id)])
  payload_decodes : Base64.decode .urlSafe payload
    = some (Bytes.ofText (Json.objectText claims.members))
  payload_reads : (Json.parse? (Json.objectText claims.members)).bind Claims.ofJson?
    = some claims
  signed : ∃ signature, Base64.decode .urlSafe last = some signature ∧
    SignedBy credential (header ++ "." ++ payload) fresh signature

theorem part_spelled
    {bytes : Bytes}
    (h : bytes ≠ []) :
    part bytes ≠ "" ∧ ∀ c ∈ (part bytes).toList, (Base64.value? .urlSafe c).isSome :=
  ⟨Base64.encode_ne_empty h, fun _ => Base64.mem_encode_urlSafe⟩

/-- The bytes of a document are not none. -/
theorem ofText_objectText_ne_nil
    (members : List (String × String)) :
    Bytes.ofText (Json.objectText members) ≠ [] := by
  intro h
  have htext : Json.objectText members = "" := by
    have hread := Bytes.text?_ofText (Json.objectText members)
    rw [h] at hread
    exact (Option.some.inj hread).symm
  have hlist := congrArg String.toList htext
  simp [Json.objectText] at hlist

/-- A dot is no character of the alphabet, so a token is split at its dots only. -/
theorem splitOn_parts
    (a b c : Bytes) :
    (part a ++ "." ++ part b ++ "." ++ part c).toList.splitOn '.'
      = [(part a).toList, (part b).toList, (part c).toList] := by
  have hnone : ∀ chars ∈ [(part a).toList, (part b).toList, (part c).toList], '.' ∉ chars := by
    have hdot (bytes : Bytes) : '.' ∉ (part bytes).toList := by
      intro h
      have hsome := Base64.mem_encode_urlSafe h
      revert hsome
      decide
    simp only [List.forall_mem_cons]
    exact ⟨hdot a, hdot b, hdot c, by simp⟩
  have hsplit := List.splitOn_intercalate '.' hnone (by simp)
  rw [← hsplit]
  simp [List.intercalate]

/-- The first part of a token, for the name of an algorithm and the id of a key. -/
def headerPart (name id : String) : String :=
  part (Bytes.ofText (headerText name id))

def payloadPart (claims : Claims) : String :=
  part (Bytes.ofText (Json.objectText claims.members))

theorem signedText_eq
    (credential : Credential) (claims : Claims) :
    signedText credential claims
      = headerPart credential.algorithm.name credential.id ++ "." ++ payloadPart claims := by
  rw [signedText, compact_header, Claims.compact_toJson]
  rfl

/-- A signature of the first two parts makes a token of them. -/
theorem serialized_ofSignature
    {fresh signature : Bytes}
    (h : Token.signature credential (Bytes.ofText (signedText credential claims)) fresh
      = .ok signature) :
    Serialized credential claims fresh (ofSignature credential claims signature).text
      (headerPart credential.algorithm.name credential.id) (payloadPart claims)
      (part signature) := by
  have hsigned := signedBy_of_signature h
  have htext : (ofSignature credential claims signature).text
      = headerPart credential.algorithm.name credential.id ++ "." ++ payloadPart claims ++ "."
        ++ part signature := by
    rw [ofSignature, signedText_eq]
  rw [signedText_eq] at hsigned
  exact {
    text_eq := htext
    parts := by
      rw [htext]
      exact splitOn_parts _ _ _
    spelled := by
      simp only [List.forall_mem_cons]
      exact ⟨part_spelled (ofText_objectText_ne_nil _), part_spelled (ofText_objectText_ne_nil _),
        part_spelled hsigned.signed.ne_nil, by simp⟩
    header_decodes := Base64.decode_encode _ _
    header_reads := parse?_headerText _ _
    payload_decodes := Base64.decode_encode _ _
    payload_reads := claims.parse?_members
    signed := ⟨signature, Base64.decode_encode _ _, hsigned⟩ }

/-- Every signed token is made of a header, its claims and a signature, in whichever way it is put
together, and the first two parts are the same for every key of the same algorithm. -/
theorem sign_serialized
    (h : (sign credential claims).run entropy = (.ok token, rest)) :
    token.claims = claims ∧
      ∃ fresh header payload last,
        Serialized credential claims fresh token.text header payload last ∧
          (∀ encoder, assemble encoder credential claims fresh = .ok token.text) ∧
          ∀ other : Credential, other.id = credential.id →
            other.algorithm = credential.algorithm → ∀ later found remaining,
              (sign other claims).run later = (.ok found, remaining) →
                ∃ otherFresh otherLast,
                  Serialized other claims otherFresh found.text header payload otherLast := by
  obtain ⟨fresh, signature, hsignature, rfl⟩ := sign_run_ok h
  refine ⟨rfl, fresh, _, _, _, serialized_ofSignature hsignature, fun encoder => ?_, ?_⟩
  · rw [assemble_eq, hsignature]
    rfl
  · intro other hid halgorithm later found remaining hother
    obtain ⟨otherFresh, otherSignature, hotherSignature, rfl⟩ := sign_run_ok hother
    have hserialized := serialized_ofSignature hotherSignature
    rw [hid, halgorithm] at hserialized
    exact ⟨otherFresh, _, hserialized⟩

/-- A key that is long enough signs, and its token is made of three parts. -/
theorem rootClaims_serialized :
    ∃ credential token entropy rest,
      (sign credential Command.rootClaims).run entropy = (.ok token, rest) ∧
        token.claims = Command.rootClaims ∧
        ∃ fresh header payload last,
          Serialized credential Command.rootClaims fresh token.text header payload last ∧
            assemble .joining credential Command.rootClaims fresh = .ok token.text := by
  let credential := Store.plainCredential .long ⟨"", "", ""⟩
  let entropy : Entropy := ⟨fun _ => 0, 0⟩
  obtain ⟨signature, hsignature⟩ := Command.signature_rootClaims ⟨"", "", ""⟩
  have hsign : (sign credential Command.rootClaims).run entropy
      = (.ok (ofSignature credential Command.rootClaims signature),
        (entropy.draw freshBytes).2) := sign_run_of_signature hsignature
  obtain ⟨hclaims, fresh, header, payload, last, hserialized, hassemble, -⟩ := sign_serialized hsign
  exact ⟨_, _, _, _, hsign, hclaims, fresh, header, payload, last, hserialized, hassemble _⟩

end Token
end WorkloadIdentity
