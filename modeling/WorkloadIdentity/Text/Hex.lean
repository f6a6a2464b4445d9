import WorkloadIdentity.Bytes

/-!
# Hexadecimal text

Bytes written as pairs of hexadecimal digits.

* `decode_encode`: what `encode` writes is read back.
* `decode` accepts digits of either case and names the first byte that is no digit.
-/

namespace WorkloadIdentity
namespace Hex

/-- Why a text is not hexadecimal. -/
inductive Fault
  | oddLength
  | badByte (byte : UInt8) (index : Nat)
  deriving DecidableEq, Repr

/-- The lower-case digit of a value below 16. -/
def digit (value : Nat) : Char :=
  if value < 10 then Char.ofNat (48 + value) else Char.ofNat (87 + value)

/-- The value of a hexadecimal digit of either case. -/
def value? (c : Char) : Option Nat :=
  if '0' ≤ c ∧ c ≤ '9' then some (c.toNat - 48)
  else if 'a' ≤ c ∧ c ≤ 'f' then some (c.toNat - 87)
  else if 'A' ≤ c ∧ c ≤ 'F' then some (c.toNat - 55)
  else none

/-- The value of the digit that a byte spells. -/
def byteValue? (byte : UInt8) : Option Nat :=
  value? (Char.ofNat byte.toNat)

/-- The two digits of each byte, in lower case. -/
def encodeChars : Bytes → List Char
  | [] => []
  | byte :: bytes =>
      digit (byte.toNat / 16) :: digit (byte.toNat % 16) :: encodeChars bytes

/-- The bytes written in lower-case hexadecimal. -/
def encode (bytes : Bytes) : String :=
  String.ofList (encodeChars bytes)

/-- The pairs of digits from position `index` on. -/
def decodePairs (index : Nat) : Bytes → Except Fault Bytes
  | high :: low :: rest =>
      match byteValue? high, byteValue? low with
      | none, _ => .error (.badByte high index)
      | some _, none => .error (.badByte low (index + 1))
      | some h, some l => do
          let bytes ← decodePairs (index + 2) rest
          return UInt8.ofNat (h * 16 + l) :: bytes
  | _ => .ok []

/-- The bytes that a text spells; its length is looked at before its digits. -/
def decode (text : String) : Except Fault Bytes :=
  let bytes := Bytes.ofText text
  if bytes.length % 2 = 1 then .error .oddLength else decodePairs 0 bytes

theorem value?_digit
    {value : Nat}
    (h : value < 16) :
    value? (digit value) = some value := by
  have all : ∀ v < 16, value? (digit v) = some v := by decide
  exact all value h

theorem utf8EncodeChar_digit
    {value : Nat}
    (h : value < 16) :
    ∃ byte, String.utf8EncodeChar (digit value) = [byte] ∧ byteValue? byte = some value := by
  have all : ∀ v < 16, String.utf8EncodeChar (digit v) = [UInt8.ofNat (digit v).toNat]
      ∧ byteValue? (UInt8.ofNat (digit v).toNat) = some v := by decide
  exact ⟨_, all value h⟩

theorem decodePairs_encodeChars
    (index : Nat) (bytes : Bytes) :
    ((encodeChars bytes).flatMap String.utf8EncodeChar).length % 2 = 0
      ∧ decodePairs index ((encodeChars bytes).flatMap String.utf8EncodeChar) = .ok bytes := by
  induction bytes generalizing index with
  | nil =>
      exact ⟨rfl, rfl⟩
  | cons byte bytes ih =>
      have hlt := byte.toNat_lt
      obtain ⟨high, ehigh, vhigh⟩ := utf8EncodeChar_digit (show byte.toNat / 16 < 16 by omega)
      obtain ⟨low, elow, vlow⟩ := utf8EncodeChar_digit (show byte.toNat % 16 < 16 by omega)
      obtain ⟨heven, hrest⟩ := ih (index + 2)
      have hbyte : UInt8.ofNat (byte.toNat / 16 * 16 + byte.toNat % 16) = byte := by
        rw [Nat.div_add_mod']
        simp
      simp only [encodeChars, List.flatMap_cons, ehigh, elow, List.singleton_append,
        List.length_cons, decodePairs, vhigh, vlow, hrest, hbyte]
      exact ⟨by omega, rfl⟩

@[simp] theorem decode_encode
    (bytes : Bytes) :
    decode (encode bytes) = .ok bytes := by
  obtain ⟨heven, hpairs⟩ := decodePairs_encodeChars 0 bytes
  simp only [decode, encode, Bytes.ofText_ofList]
  rw [if_neg (by omega), hpairs]

end Hex
end WorkloadIdentity
