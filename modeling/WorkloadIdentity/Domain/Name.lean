import WorkloadIdentity.Domain.Direction
import WorkloadIdentity.Domain.Joiner
import WorkloadIdentity.Domain.Mapping
import WorkloadIdentity.Domain.Punycode

/-!
# Domain names

Domain names of any script brought into their ASCII form: mapped and normalized, cut into labels,
each label checked, and labels with other characters written in Punycode (UTS 46).
-/

namespace WorkloadIdentity
namespace Domain

/-- The ASCII characters that no host of a web address contains. -/
def isForbidden (c : Char) : Bool :=
  c.toNat ≤ 0x20 || c.toNat == 0x7f || "%#/:<>?@[\\]^|".toList.contains c

/-- What marks a label as Punycode. -/
def encodedMark : List Char := "xn--".toList

/-- The longest label that is decoded. -/
def maxEncoded : Nat := 2000

/-- The longest label that is encoded. -/
def maxDecoded : Nat := 1000

/-- The characters between dots. -/
def labels (name : List Char) : List (List Char) :=
  let (current, done) := name.foldr (fun c (current, done) =>
    if c = '.' then ([], current :: done) else (c :: current, done))
    (([] : List Char), ([] : List (List Char)))
  current :: done

/-- The characters that an encoded label stands for: valid, in normal form, and not all ASCII. -/
def decodeLabel? (code : List Char) : Option (List Char) := do
  let chars ← if code.length ≤ maxEncoded then Punycode.decode? code else none
  if chars.all isMapped ∧ normalize chars = chars ∧ chars.any (fun c => 128 ≤ c.toNat) then
    some chars
  else none

/-- The characters of a label. -/
def plainLabel? (label : List Char) : Option (List Char) :=
  if encodedMark.isPrefixOf label then decodeLabel? (label.drop 4) else some label

/-- The label may stand in a host: no forbidden character, no mark in front, no stray joiner. -/
def isValidLabel (label : List Char) : Bool :=
  label.all (fun c => !isForbidden c) && !(label.head?.any marks.contains)
    && joinersAllowed [] label

/-- The ASCII form of a label, given what it stands for. -/
def asciiLabel? (label plain : List Char) : Option (List Char) :=
  if label.all (fun c => c.toNat < 128) then some label
  else if plain.length ≤ maxDecoded then some (encodedMark ++ Punycode.encode plain)
  else none

/-- The ASCII form of a domain name, if it is one. -/
def toAscii? (name : List Char) : Option (List Char) := do
  let mapped ← name.mapM map?
  let given := labels (normalize mapped.flatten)
  let plain ← given.mapM plainLabel?
  let rightward := plain.any fun label => label.any fun c => (direction c).isRightward
  if plain.all isValidLabel ∧ (rightward → plain.all isDirected) then
    let ascii ← (given.zip plain).mapM fun (label, plain) => asciiLabel? label plain
    return [ '.' ].intercalate ascii
  else none

end Domain
end WorkloadIdentity
