import WorkloadIdentity.Text.Hex

/-!
# Percent-encoded text

Bytes written as a percent sign and two hexadecimal digits.  A percent sign without two digits
behind it stands for itself.

* `decode_of_noPercent`: text without percent signs is its own bytes.
-/

namespace WorkloadIdentity
namespace Percent

/-- The bytes with every escape replaced by the byte that it stands for. -/
def decode : Bytes → Bytes
  | 0x25 :: high :: low :: rest =>
      match Hex.byteValue? high, Hex.byteValue? low with
      | some h, some l => UInt8.ofNat (h * 16 + l) :: decode rest
      | _, _ => 0x25 :: decode (high :: low :: rest)
  | byte :: rest => byte :: decode rest
  | [] => []

/-- Every percent sign of a text is followed by two hexadecimal digits. -/
def escapesWhole : List Char → Bool
  | '%' :: high :: low :: rest =>
      (Hex.value? high).isSome && (Hex.value? low).isSome && escapesWhole rest
  | c :: rest => c != '%' && escapesWhole rest
  | [] => true

/-- The bytes of a form field, in which a plus sign stands for a space. -/
def decodeForm (bytes : Bytes) : Bytes :=
  decode (bytes.map fun byte => if byte = 0x2B then 0x20 else byte)

theorem decode_of_noPercent
    {bytes : Bytes}
    (h : ∀ byte ∈ bytes, byte ≠ 0x25) :
    decode bytes = bytes := by
  induction bytes with
  | nil =>
      rfl
  | cons byte bytes ih =>
      have hb : byte ≠ 0x25 := h byte (by simp)
      rw [decode.eq_2]
      · rw [ih fun b hm => h b (by simp [hm])]
      · intro high low rest hbyte _
        exact hb hbyte

end Percent
end WorkloadIdentity
