import WorkloadIdentity.Der.KeyInfo

/-!
# Envelopes are read back

An element whose whole encoding is short enough is read back, and so is everything inside of it,
since contents are shorter than the elements that hold them.

* `sequence?_encode`: the elements of a sequence are read back from its bytes.
* `PrivateKeyInfo.decode?_encode` and `PublicKeyInfo.decode?_encode`: so are the two envelopes.
-/

namespace WorkloadIdentity
namespace Der

theorem length_encodeLength_le
    {length : Nat}
    (h : length < maxLength) :
    (encodeLength length).length ≤ 5 := by
  unfold encodeLength
  split
  · simp
  · have hbytes : (Bytes.ofNat length).length ≤ 4 :=
      Bytes.length_ofNat_le (by decide) (Nat.lt_trans h (by decide))
    rw [List.length_cons]
    omega

theorem length_encode
    (element : Element) :
    element.encode.length
      = element.content.length + (encodeLength element.content.length).length + 1 := by
  simp only [Element.encode, List.length_cons, List.length_append]
  omega

/-- A content is shorter than its element. -/
theorem length_content_lt
    (element : Element) :
    element.content.length < element.encode.length := by
  rw [length_encode]
  omega

theorem length_encode_le
    {element : Element}
    (h : element.content.length < maxLength) :
    element.encode.length ≤ element.content.length + 6 := by
  have hlength := length_encodeLength_le h
  rw [length_encode]
  omega

@[simp] theorem encodeAll_nil :
    encodeAll [] = [] := by
  rfl

@[simp] theorem encodeAll_cons
    (element : Element) (elements : List Element) :
    encodeAll (element :: elements) = element.encode ++ encodeAll elements := by
  rfl

/-- An element is no longer than the row that it stands in. -/
theorem length_encode_le_encodeAll
    {element : Element} {elements : List Element}
    (h : element ∈ elements) :
    element.encode.length ≤ (encodeAll elements).length := by
  induction elements with
  | nil => cases h
  | cons first elements ih =>
      rw [encodeAll_cons, List.length_append]
      rcases List.mem_cons.mp h with rfl | h
      · omega
      · have hrest := ih h
        omega

/-- A row of elements is read back if it is short enough. -/
theorem elements?_encodeAll_of_length
    {elements : List Element}
    (htags : ∀ element ∈ elements, knownTag element.tag)
    (hlength : (encodeAll elements).length < maxLength) :
    elements? (encodeAll elements) = some elements := by
  refine elements?_encodeAll fun element hmem => ⟨htags element hmem, ?_⟩
  have hcontent := length_content_lt element
  have hrow := length_encode_le_encodeAll hmem
  omega

theorem single?_encode
    {element : Element}
    (htag : knownTag element.tag)
    (hlength : element.content.length < maxLength) :
    single? element.encode = some element := by
  have hrow := @elements?_encodeAll [element] (by simp [htag, hlength])
  rw [encodeAll_cons, encodeAll_nil, List.append_nil] at hrow
  rw [single?, hrow]

theorem Element.sequence?_sequence
    {elements : List Element}
    (htags : ∀ element ∈ elements, knownTag element.tag)
    (hlength : (encodeAll elements).length < maxLength) :
    (sequence elements).sequence? = some elements := by
  rw [Element.sequence?, Element.content?, sequence, if_pos rfl, Option.bind_some,
    elements?_encodeAll_of_length htags hlength]

/-- The elements of a sequence are read back from its bytes, if these are few enough. -/
theorem sequence?_encode
    {elements : List Element}
    (htags : ∀ element ∈ elements, knownTag element.tag)
    (hlength : (sequence elements).encode.length < maxLength) :
    sequence? (sequence elements).encode = some elements := by
  have hcontent : (encodeAll elements).length < maxLength :=
    Nat.lt_trans (length_content_lt (sequence elements)) hlength
  have hsingle : single? (sequence elements).encode = some (sequence elements) :=
    single?_encode (show knownTag Tag.sequence by decide) hcontent
  rw [sequence?, hsingle, Option.bind_some, Element.sequence?_sequence htags hcontent]

/-- The whole of a sequence bounds the encoding of each of its elements. -/
theorem length_encode_lt_sequence
    {element : Element} {elements : List Element}
    (h : element ∈ elements) :
    element.encode.length < (sequence elements).encode.length :=
  Nat.lt_of_le_of_lt (length_encode_le_encodeAll h) (length_content_lt (sequence elements))

/-- The parameter of an algorithm, where there is one, has a tag that is read. -/
def AlgorithmId.HasKnownTag (algorithm : AlgorithmId) : Prop :=
  ∀ parameter ∈ algorithm.parameter, knownTag parameter.tag

theorem AlgorithmId.ofElement?_toElement
    {algorithm : AlgorithmId}
    (htag : algorithm.HasKnownTag)
    (hlength : algorithm.toElement.encode.length < maxLength) :
    ofElement? algorithm.toElement = some algorithm := by
  have hcontent := Nat.lt_trans (length_content_lt algorithm.toElement) hlength
  obtain ⟨name, parameter⟩ := algorithm
  have hidentifier : knownTag Tag.identifier := by decide
  cases parameter with
  | none =>
      have hread := @Element.sequence?_sequence [identifier name]
        (by simpa [identifier] using hidentifier) hcontent
      simp only [toElement, Option.toList_none, ofElement?, hread]
      rfl
  | some parameter =>
      have hparameter : knownTag parameter.tag := htag parameter rfl
      have hread := @Element.sequence?_sequence [identifier name, parameter]
        (by simpa [identifier, hparameter] using hidentifier) hcontent
      simp only [toElement, Option.toList_some, ofElement?, hread]
      rfl

theorem knownTag_toElement
    (algorithm : AlgorithmId) :
    knownTag algorithm.toElement.tag := by
  show knownTag Tag.sequence
  decide

/-- An envelope of a private key is read back. -/
theorem PrivateKeyInfo.decode?_encode
    {info : PrivateKeyInfo}
    (htag : info.algorithm.HasKnownTag)
    (hlength : info.encode.length < maxLength) :
    decode? info.encode = some info := by
  have htags : ∀ element ∈ [natural 0, info.algorithm.toElement, octetString info.key],
      knownTag element.tag := by
    have hinteger : knownTag Tag.integer := by decide
    have hoctets : knownTag Tag.octetString := by decide
    simp [natural, octetString, hinteger, hoctets, knownTag_toElement]
  have hread := sequence?_encode htags hlength
  have halgorithm := AlgorithmId.ofElement?_toElement htag
    (Nat.lt_trans (length_encode_lt_sequence (by simp)) hlength)
  have hkey : (octetString info.key).content? Tag.octetString = some info.key := rfl
  simp only [decode?, encode, hread, halgorithm, natural?_natural, hkey, splitPublicKey?,
    Option.bind_eq_bind, Option.bind_some]
  rfl

/-- An envelope of a public key is read back. -/
theorem PublicKeyInfo.decode?_encode
    {info : PublicKeyInfo}
    (htag : info.algorithm.HasKnownTag)
    (hlength : info.encode.length < maxLength) :
    decode? info.encode = some info := by
  have htags : ∀ element ∈ [info.algorithm.toElement, bitString info.key],
      knownTag element.tag := by
    have hbits : knownTag Tag.bitString := by decide
    simp [bitString, hbits, knownTag_toElement]
  have hread := sequence?_encode htags hlength
  have halgorithm := AlgorithmId.ofElement?_toElement htag
    (Nat.lt_trans (length_encode_lt_sequence (by simp)) hlength)
  simp only [decode?, encode, hread, halgorithm, bits?_bitString, Option.bind_eq_bind,
    Option.bind_some]
  rfl

/-- A row of natural numbers is read back number by number. -/
theorem mapM_natural?_natural
    (numbers : List Nat) :
    (numbers.map natural).mapM Element.natural? = some numbers := by
  induction numbers with
  | nil => rfl
  | cons n numbers ih => simp [List.mapM_cons, ih]

theorem knownTag_natural
    (numbers : List Nat) :
    ∀ element ∈ numbers.map natural, knownTag element.tag := by
  intro element hmem
  obtain ⟨n, -, rfl⟩ := List.mem_map.mp hmem
  show knownTag Tag.integer
  decide

theorem length_naturalContent_le
    {width n : Nat}
    (hwidth : 0 < width)
    (h : n < Nat.pow 256 width) :
    (naturalContent n).length ≤ width + 1 := by
  have hbytes := Bytes.length_ofNat_le hwidth h
  unfold naturalContent
  split
  · simpa using hbytes
  · omega

end Der
end WorkloadIdentity
