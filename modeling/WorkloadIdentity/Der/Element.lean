import WorkloadIdentity.Bytes

/-!
# DER elements

Tagged, length-prefixed elements in the distinguished encoding: lengths are definite and as short
as possible, and natural numbers have no needless leading byte.

* `elements?_encodeAll`: a list of elements is read back from its encoding.
* `natural?_natural`: so is a natural number.
-/

namespace WorkloadIdentity
namespace Der

/-- One element: its tag byte and its content. -/
structure Element where
  tag : UInt8
  content : Bytes
  deriving DecidableEq, Repr

/-- Contents are shorter than this. -/
def maxLength : Nat := 268435456

/-- The tag bytes that are read: the universal types in use, and the other classes with numbers
below 31. -/
def knownTag (tag : UInt8) : Bool :=
  if tag < 0x40 then
    [0x01, 0x02, 0x03, 0x04, 0x05, 0x06, 0x09, 0x0A, 0x0C, 0x12, 0x13, 0x14, 0x15, 0x16, 0x17,
      0x18, 0x1A, 0x1E, 0x30, 0x31].contains tag
  else tag &&& 0x1F != 0x1F

namespace Tag

def integer : UInt8 := 0x02

def bitString : UInt8 := 0x03

def octetString : UInt8 := 0x04

def null : UInt8 := 0x05

def identifier : UInt8 := 0x06

def sequence : UInt8 := 0x30

/-- A context-specific element that wraps others. -/
def wrapped (number : UInt8) : UInt8 := 0xA0 ||| number

/-- A context-specific element without inner structure. -/
def plain (number : UInt8) : UInt8 := 0x80 ||| number

/-- The number of a context-specific tag. -/
def context? (tag : UInt8) : Option UInt8 :=
  if tag &&& 0xC0 = 0x80 then some (tag &&& 0x1F) else none

end Tag

/-- The length of a content, in one byte or behind the number of its bytes. -/
def encodeLength (length : Nat) : Bytes :=
  if length < 128 then [UInt8.ofNat length]
  else
    let bytes := Bytes.ofNat length
    UInt8.ofNat (128 + bytes.length) :: bytes

def Element.encode (element : Element) : Bytes :=
  element.tag :: (encodeLength element.content.length ++ element.content)

def encodeAll (elements : List Element) : Bytes :=
  elements.flatMap Element.encode

def sequence (elements : List Element) : Element :=
  ⟨Tag.sequence, encodeAll elements⟩

/-- The shortest content of a natural number; a leading zero keeps it from being negative. -/
def naturalContent (n : Nat) : Bytes :=
  if 128 ≤ ((Bytes.ofNat n).headD 0).toNat then 0 :: Bytes.ofNat n else Bytes.ofNat n

def natural (n : Nat) : Element :=
  ⟨Tag.integer, naturalContent n⟩

def bitString (bytes : Bytes) : Element :=
  ⟨Tag.bitString, 0 :: bytes⟩

def octetString (bytes : Bytes) : Element :=
  ⟨Tag.octetString, bytes⟩

def identifier (content : Bytes) : Element :=
  ⟨Tag.identifier, content⟩

def null : Element :=
  ⟨Tag.null, []⟩

/-- The length at the start of the bytes, and the rest. -/
def length? : Bytes → Option (Nat × Bytes)
  | [] => none
  | first :: rest =>
      if first < 0x80 then some (first.toNat, rest)
      else
        let digits := rest.take (first.toNat - 128)
        let length := Bytes.toNat digits
        if digits.length ≤ 4 ∧ encodeLength length = first :: digits then
          some (length, rest.drop (first.toNat - 128))
        else none

/-- The element at the start of the bytes, and the rest. -/
def element? : Bytes → Option (Element × Bytes)
  | [] => none
  | tag :: rest =>
      match length? rest with
      | none => none
      | some (length, rest) =>
          if knownTag tag ∧ length < maxLength ∧ length ≤ rest.length then
            some (⟨tag, rest.take length⟩, rest.drop length)
          else none

theorem length_le_of_length?
    {bytes rest : Bytes} {length : Nat}
    (h : length? bytes = some (length, rest)) :
    rest.length ≤ bytes.length := by
  cases bytes with
  | nil => cases h
  | cons first tail =>
      simp only [length?] at h
      split at h
      · cases h
        simp
      · split at h
        · simp only [Option.some.injEq, Prod.mk.injEq] at h
          rw [← h.2]
          simp
          omega
        · cases h

theorem length_lt_of_element?
    {bytes rest : Bytes} {element : Element}
    (h : element? bytes = some (element, rest)) :
    rest.length < bytes.length := by
  cases bytes with
  | nil => cases h
  | cons tag tail =>
      simp only [element?] at h
      split at h
      · cases h
      · next length rest' hl =>
        have := length_le_of_length? hl
        split at h
        · cases h
          simp
          omega
        · cases h

def elements? (bytes : Bytes) : Option (List Element) :=
  if bytes = [] then some []
  else
    match _h : element? bytes with
    | none => none
    | some (element, rest) => (elements? rest).map (element :: ·)
termination_by bytes.length
decreasing_by exact length_lt_of_element? _h

theorem length?_encodeLength
    {length : Nat}
    (h : length < maxLength) (rest : Bytes) :
    length? (encodeLength length ++ rest) = some (length, rest) := by
  unfold encodeLength
  split
  · next hshort =>
    have hbyte : (UInt8.ofNat length).toNat = length := by
      rw [UInt8.toNat_ofNat']
      omega
    simp only [List.singleton_append, length?, hbyte]
    rw [if_pos (by rw [UInt8.lt_iff_toNat_lt, hbyte]; exact hshort)]
  · next hlong =>
    have hsize : (Bytes.ofNat length).length ≤ 4 :=
      Bytes.length_ofNat_le (by decide) (Nat.lt_trans h (by decide))
    have hbyte : (UInt8.ofNat (128 + (Bytes.ofNat length).length)).toNat
        = 128 + (Bytes.ofNat length).length := by
      rw [UInt8.toNat_ofNat']
      omega
    simp only [List.cons_append, length?, hbyte, Nat.add_sub_cancel_left, List.take_left,
      List.drop_left, Bytes.toNat_ofNat]
    rw [if_neg (by rw [UInt8.lt_iff_toNat_lt, hbyte]; simp),
      if_pos ⟨hsize, by rw [encodeLength, if_neg hlong]⟩]

theorem element?_encode
    {element : Element}
    (htag : knownTag element.tag) (hlength : element.content.length < maxLength) (rest : Bytes) :
    element? (element.encode ++ rest) = some (element, rest) := by
  simp only [Element.encode, List.cons_append, List.append_assoc, element?,
    length?_encodeLength hlength, List.length_append, List.take_left, List.drop_left]
  rw [if_pos ⟨htag, hlength, by omega⟩]

theorem elements?_encodeAll
    {elements : List Element}
    (h : ∀ element ∈ elements, knownTag element.tag ∧ element.content.length < maxLength) :
    elements? (encodeAll elements) = some elements := by
  induction elements with
  | nil =>
      rw [elements?]
      rfl
  | cons element elements ih =>
      have helement := element?_encode (h element (by simp)).1 (h element (by simp)).2
        (encodeAll elements)
      have hne : element.encode ++ encodeAll elements ≠ [] := by simp [Element.encode]
      rw [encodeAll, List.flatMap_cons, ← encodeAll, elements?, if_neg hne]
      split
      · next hnone =>
        rw [helement] at hnone
        cases hnone
      · next found hsome =>
        rw [helement] at hsome
        cases hsome
        rw [ih fun element hmem => h element (by simp [hmem])]
        rfl

/-- The element that the bytes consist of. -/
def single? (bytes : Bytes) : Option Element :=
  match elements? bytes with
  | some [element] => some element
  | _ => none

/-- The content of an element with the given tag. -/
def Element.content? (tag : UInt8) (element : Element) : Option Bytes :=
  if element.tag = tag then some element.content else none

def Element.sequence? (element : Element) : Option (List Element) :=
  (element.content? Tag.sequence).bind elements?

/-- The elements of the sequence that the bytes consist of. -/
def sequence? (bytes : Bytes) : Option (List Element) :=
  (single? bytes).bind Element.sequence?

/-- The natural number of an integer element. -/
def Element.natural? (element : Element) : Option Nat := do
  let content ← element.content? Tag.integer
  let n := Bytes.toNat content
  if content = naturalContent n then some n else none

/-- The whole bytes of a bit string. -/
def Element.bits? (element : Element) : Option Bytes := do
  match ← element.content? Tag.bitString with
  | 0 :: bytes => some bytes
  | _ => none

@[simp] theorem natural?_natural
    (n : Nat) :
    (natural n).natural? = some n := by
  have h : Bytes.toNat (naturalContent n) = n := by
    unfold naturalContent
    split
    · rw [Bytes.toNat_cons]
      simp
    · simp
  simp [natural, Element.natural?, Element.content?, h]

@[simp] theorem bits?_bitString
    (bytes : Bytes) :
    (bitString bytes).bits? = some bytes := by
  rfl

end Der
end WorkloadIdentity
