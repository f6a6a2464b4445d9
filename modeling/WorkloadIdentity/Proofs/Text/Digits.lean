import Mathlib.Data.List.Induction
import WorkloadIdentity.Proofs.Text.Escapes
import WorkloadIdentity.Text.Blank
import WorkloadIdentity.Text.Hex

/-!
# What hexadecimal digits spell

Two digits, each of either case, spell one byte, and nothing but digits spells anything.

* `Hex.exists_spells_iff`: the characters that spell bytes.
* `Hex.decode_eq_ok_iff`: a text is read as the bytes that its characters spell.
-/

namespace WorkloadIdentity
namespace Hex

/-- Characters spell bytes: two digits for each of them, the first for its upper half. -/
inductive Spells : List Char → Bytes → Prop
  | nil : Spells [] []
  | cons {high low : Char} {upper lower : Nat} {chars : List Char} {bytes : Bytes} :
      value? high = some upper →
      value? low = some lower →
      Spells chars bytes →
      Spells (high :: low :: chars) (UInt8.ofNat (upper * 16 + lower) :: bytes)

variable {chars : List Char} {bytes : Bytes} {text : String} {c : Char}

theorem Spells.length_eq
    (h : Spells chars bytes) :
    chars.length = 2 * bytes.length := by
  induction h with
  | nil => rfl
  | cons _ _ _ ih =>
      simp only [List.length_cons]
      omega

theorem isHexDigit_of_value?
    {value : Nat}
    (h : value? c = some value) :
    c.isHexDigit = true := by
  rw [← isSome_value?, h]
  rfl

/-- The characters that spell bytes are digits, and even in number. -/
theorem exists_spells_iff :
    (∃ bytes, Spells chars bytes) ↔
      chars.length % 2 = 0 ∧ ∀ c ∈ chars, c.isHexDigit = true := by
  constructor
  · rintro ⟨bytes, h⟩
    refine ⟨by rw [h.length_eq]; omega, ?_⟩
    induction h with
    | nil => simp
    | cons hhigh hlow _ ih =>
        exact List.forall_mem_cons.mpr ⟨isHexDigit_of_value? hhigh,
          List.forall_mem_cons.mpr ⟨isHexDigit_of_value? hlow, ih⟩⟩
  · rintro ⟨heven, hdigits⟩
    -- the characters are taken two at a time
    induction chars using List.twoStepInduction with
    | nil => exact ⟨[], .nil⟩
    | singleton c => simp at heven
    | cons_cons high low chars ih _ =>
        rw [List.forall_mem_cons, List.forall_mem_cons] at hdigits
        obtain ⟨hhigh, hlow, hrest⟩ := hdigits
        obtain ⟨upper, hupper⟩ := Option.isSome_iff_exists.mp ((isSome_value? high).trans hhigh)
        obtain ⟨lower, hlower⟩ := Option.isSome_iff_exists.mp ((isSome_value? low).trans hlow)
        obtain ⟨bytes, hbytes⟩ :=
          ih (by simp only [List.length_cons] at heven; omega) hrest
        exact ⟨_, .cons hupper hlower hbytes⟩

theorem toNat_of_isHexDigit
    (h : c.isHexDigit = true) :
    48 ≤ c.toNat ∧ c.toNat ≤ 102 := by
  have hle (a b : UInt32) : a ≤ b ↔ a.toNat ≤ b.toNat := Iff.rfl
  simp only [Char.isHexDigit, Char.isDigit, ge_iff_le, Bool.or_eq_true, Bool.and_eq_true,
    decide_eq_true_eq, hle] at h
  have hvalue : c.toNat = c.val.toNat := rfl
  rcases h with (⟨hlow, hhigh⟩ | ⟨hlow, hhigh⟩) | ⟨hlow, hhigh⟩ <;>
    · simp at hlow hhigh
      omega

theorem isBlank_of_isHexDigit
    (h : c.isHexDigit = true) :
    isBlank c = false := by
  obtain ⟨hlow, hhigh⟩ := toNat_of_isHexDigit h
  simp [isBlank]
  omega

/-- The digits of the lower case. -/
def lowerDigits : List Char :=
  "0123456789abcdef".toList

/-- Bytes are written in digits of the lower case. -/
theorem mem_encodeChars
    (h : c ∈ encodeChars bytes) :
    c ∈ lowerDigits := by
  have hdigit : ∀ value < 16, digit value ∈ lowerDigits := by decide
  induction bytes with
  | nil => cases h
  | cons byte bytes ih =>
      have hlt := byte.toNat_lt
      rcases List.mem_cons.mp h with rfl | h
      · exact hdigit _ (by omega)
      · rcases List.mem_cons.mp h with rfl | h
        · exact hdigit _ (by omega)
        · exact ih h

/-- A digit is encoded in one byte, which has its value. -/
theorem utf8EncodeChar_of_isHexDigit
    (h : c.isHexDigit = true) :
    String.utf8EncodeChar c = [UInt8.ofNat c.toNat] ∧
      byteValue? (UInt8.ofNat c.toNat) = value? c := by
  have hrange := toNat_of_isHexDigit h
  rcases Bytes.utf8EncodeChar_cases c with ⟨hlt, hbytes⟩ | ⟨hbeyond, -⟩
  · refine ⟨hbytes, ?_⟩
    rw [byteValue?, UInt8.toNat_ofNat_of_lt' (show c.toNat < 256 by omega), Char.ofNat_toNat]
  · omega

theorem length_flatMap_utf8EncodeChar
    (h : ∀ c ∈ chars, c.isHexDigit = true) :
    (chars.flatMap String.utf8EncodeChar).length = chars.length := by
  induction chars with
  | nil => rfl
  | cons c chars ih =>
      obtain ⟨hc, hchars⟩ := List.forall_mem_cons.mp h
      rw [List.flatMap_cons, (utf8EncodeChar_of_isHexDigit hc).1, List.singleton_append,
        List.length_cons, List.length_cons, ih hchars]

/-- The bytes with a value are in ASCII. -/
theorem toNat_of_byteValue?
    {byte : UInt8}
    (h : (byteValue? byte).isSome) :
    byte.toNat ≤ 102 := by
  have hlt := byte.toNat_lt
  have hchar : (Char.ofNat byte.toNat).toNat = byte.toNat := by
    rw [Char.ofNat, dif_pos (Or.inl (by omega))]
    rfl
  rw [byteValue?, isSome_value?] at h
  exact hchar ▸ (toNat_of_isHexDigit h).2

/-- A character whose bytes are all digits is one itself. -/
theorem isHexDigit_of_utf8EncodeChar
    (h : ∀ byte ∈ String.utf8EncodeChar c, (byteValue? byte).isSome) :
    c.isHexDigit = true := by
  rcases Bytes.utf8EncodeChar_cases c with ⟨hlt, hbytes⟩ | ⟨-, hbytes⟩
  · have hdigit := h (UInt8.ofNat c.toNat) (by rw [hbytes]; exact List.mem_singleton_self _)
    rwa [byteValue?, UInt8.toNat_ofNat_of_lt' (show c.toNat < 256 by omega), Char.ofNat_toNat,
      isSome_value?] at hdigit
  · obtain ⟨byte, hmem⟩ := List.exists_mem_of_ne_nil _ (@String.utf8EncodeChar_ne_nil c)
    have hbeyond := hbytes byte hmem
    have hrange := toNat_of_byteValue? (h byte hmem)
    omega

/-- Every byte of a text that spells bytes is a digit. -/
theorem decodePairs_ok
    {index : Nat} {out : Bytes}
    (h : decodePairs index bytes = .ok out)
    (heven : bytes.length % 2 = 0) :
    ∀ byte ∈ bytes, (byteValue? byte).isSome := by
  fun_induction decodePairs index bytes generalizing out with
  | case1 => cases h
  | case2 => cases h
  | case3 index high low rest hvalue lvalue hlow hhigh ih =>
      simp only [bind, Except.bind] at h
      split at h
      · cases h
      · next decoded hdecoded =>
        have hrest := ih hdecoded (by simp only [List.length_cons] at heven; omega)
        simp [hlow, hhigh]
        exact hrest
  | case4 bytes index hshort =>
      match bytes, hshort with
      | [], _ => simp
      | [byte], _ => simp at heven
      | high :: low :: rest, hshort => exact absurd rfl (hshort high low rest)

theorem Spells.decodePairs_eq
    (h : Spells chars bytes)
    (index : Nat) :
    (chars.flatMap String.utf8EncodeChar).length % 2 = 0 ∧
      decodePairs index (chars.flatMap String.utf8EncodeChar) = .ok bytes := by
  induction h generalizing index with
  | nil => exact ⟨rfl, rfl⟩
  | cons hhigh hlow _ ih =>
      obtain ⟨ehigh, vhigh⟩ := utf8EncodeChar_of_isHexDigit (isHexDigit_of_value? hhigh)
      obtain ⟨elow, vlow⟩ := utf8EncodeChar_of_isHexDigit (isHexDigit_of_value? hlow)
      obtain ⟨heven, hrest⟩ := ih (index + 2)
      simp only [List.flatMap_cons, ehigh, elow, List.singleton_append, List.length_cons,
        decodePairs, vhigh, vlow, hhigh, hlow, hrest]
      exact ⟨by omega, rfl⟩

theorem decode_of_spells
    (h : Spells text.toList bytes) :
    decode text = .ok bytes := by
  obtain ⟨heven, hpairs⟩ := h.decodePairs_eq 0
  rw [← String.ofList_toList (s := text)]
  simp only [decode, Bytes.ofText_ofList]
  rw [if_neg (by omega), hpairs]

/-- The bytes of a text that is read are digits, and even in number. -/
theorem exists_spells_of_decode
    (h : decode text = .ok bytes) :
    ∃ spelled, Spells text.toList spelled := by
  rw [← String.ofList_toList (s := text)] at h
  simp only [decode, Bytes.ofText_ofList] at h
  split at h
  · cases h
  · next heven =>
    have hbytes := decodePairs_ok h (by omega)
    have hdigits : ∀ c ∈ text.toList, c.isHexDigit = true := by
      intro c hc
      refine isHexDigit_of_utf8EncodeChar fun byte hbyte => hbytes byte ?_
      exact List.mem_flatMap.mpr ⟨c, hc, hbyte⟩
    refine exists_spells_iff.mpr ⟨?_, hdigits⟩
    have hlength := length_flatMap_utf8EncodeChar hdigits
    omega

/-- A text is read as the bytes that its characters spell, and no other text is read. -/
theorem decode_eq_ok_iff :
    decode text = .ok bytes ↔ Spells text.toList bytes := by
  refine ⟨fun h => ?_, decode_of_spells⟩
  obtain ⟨spelled, hspelled⟩ := exists_spells_of_decode h
  obtain rfl : spelled = bytes :=
    Except.ok.inj ((decode_of_spells hspelled).symm.trans h)
  exact hspelled

end Hex
end WorkloadIdentity
