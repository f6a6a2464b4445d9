import WorkloadIdentity.Der.Element

/-!
# Envelopes of keys

The standard envelopes around a private key (PKCS#8) and a public key (X.509), each with the
identifier of its algorithm.  Private envelopes may carry the public key and further
context-specific elements, which are checked for form and not kept.
-/

namespace WorkloadIdentity
namespace Der

/-- What a key is used with: an object identifier and at most one parameter. -/
structure AlgorithmId where
  name : Bytes
  parameter : Option Element
  deriving DecidableEq, Repr

namespace AlgorithmId

def toElement (algorithm : AlgorithmId) : Element :=
  sequence (identifier algorithm.name :: algorithm.parameter.toList)

/-- The algorithm identifier that an element holds. -/
def ofElement? (element : Element) : Option AlgorithmId := do
  match ← element.sequence? with
  | [name] => return ⟨← name.content? Tag.identifier, none⟩
  | [name, parameter] => return ⟨← name.content? Tag.identifier, some parameter⟩
  | _ => none

end AlgorithmId

/-- The element is wrapped: context-specific, and holding exactly one other element. -/
def Element.wrapsOne (element : Element) : Bool :=
  element.tag &&& 0xE0 == 0xA0 && (single? element.content).isSome

/-- An envelope around an encoded private key. -/
structure PrivateKeyInfo where
  algorithm : AlgorithmId
  key : Bytes
  deriving DecidableEq, Repr

namespace PrivateKeyInfo

/-- The public key among the last elements of an envelope, and the elements behind it.  Elements
numbered zero before it are passed over. -/
def splitPublicKey? : List Element → Option (Option Bytes × List Element)
  | [] => some (none, [])
  | element :: rest =>
      match Tag.context? element.tag with
      | some 0 => splitPublicKey? rest
      | some 1 =>
          if element.tag = Tag.plain 1 then
            match (⟨Tag.bitString, element.content⟩ : Element).bits? with
            | some bytes => some (some bytes, rest)
            | none => none
          else none
      | _ => some (none, element :: rest)

/-- The bytes of an envelope without a public key. -/
def encode (info : PrivateKeyInfo) : Bytes :=
  (sequence [natural 0, info.algorithm.toElement, octetString info.key]).encode

/-- The envelope that bytes hold.  Version one comes with a public key and version zero without. -/
def decode? (bytes : Bytes) : Option PrivateKeyInfo := do
  match ← sequence? bytes with
  | version :: algorithm :: key :: rest =>
      let version ← version.natural?
      let algorithm ← AlgorithmId.ofElement? algorithm
      let key ← key.content? Tag.octetString
      let (publicKey, rest) ← splitPublicKey? rest
      if version = (if publicKey.isSome then 1 else 0) ∧ rest.all Element.wrapsOne then
        return ⟨algorithm, key⟩
      else none
  | _ => none

end PrivateKeyInfo

/-- An envelope around an encoded public key. -/
structure PublicKeyInfo where
  algorithm : AlgorithmId
  key : Bytes
  deriving DecidableEq, Repr

namespace PublicKeyInfo

def encode (info : PublicKeyInfo) : Bytes :=
  (sequence [info.algorithm.toElement, bitString info.key]).encode

def decode? (bytes : Bytes) : Option PublicKeyInfo := do
  match ← sequence? bytes with
  | [algorithm, key] =>
      return ⟨← AlgorithmId.ofElement? algorithm, ← key.bits?⟩
  | _ => none

end PublicKeyInfo
end Der
end WorkloadIdentity
