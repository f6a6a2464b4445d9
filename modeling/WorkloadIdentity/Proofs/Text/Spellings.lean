import WorkloadIdentity.Text.Base64

/-!
# Each byte string has one spelling

Other readers of base64 take more than the strict one: both alphabets at once, any padding or
none, white space and line ends between the characters, and bits left over at the end.  To such a
reader a byte string has many spellings.  The strict reader takes one of them, which is the one
that is written.

* `Base64.mem_encode_urlSafe`, `Base64.four_dvd_length_encode_standard`: the characters of a
  spelling, and how many they are.
* `Base64.loose_encode`: what is written means the same to a loose reader.
* `Base64.decode_eq_none_of_loose`: no other spelling is read.
-/

namespace WorkloadIdentity
namespace Base64

theorem isSome_value?_symbol
    (form : Form) (value : Nat) :
    (value? form (symbol form value)).isSome := by
  by_cases h : value < 64
  · rw [value?_symbol form h]
    rfl
  · have hlast : symbol form value = form.last.2 := by
      rw [symbol, if_neg (by omega), if_neg (by omega), if_neg (by omega), if_neg (by omega)]
    rw [hlast]
    cases form <;> decide

/-- Bytes are written in the characters of the alphabet for URLs and no others. -/
theorem mem_encode_urlSafe
    {bytes : Bytes} {c : Char}
    (h : c ∈ (encode .urlSafe bytes).toList) :
    (value? .urlSafe c).isSome := by
  rw [encode, String.toList_ofList] at h
  fun_induction encodeChars .urlSafe bytes with
  | case1 => cases h
  | case2 a =>
      simp only [padding, Form.padded, List.mem_cons] at h
      rcases h with rfl | rfl | h
      · exact isSome_value?_symbol _ _
      · exact isSome_value?_symbol _ _
      · cases h
  | case3 a b =>
      simp only [padding, Form.padded, List.mem_cons] at h
      rcases h with rfl | rfl | rfl | h
      · exact isSome_value?_symbol _ _
      · exact isSome_value?_symbol _ _
      · exact isSome_value?_symbol _ _
      · cases h
  | case4 a b c rest ih =>
      simp only [List.mem_cons] at h
      rcases h with rfl | rfl | rfl | rfl | h
      · exact isSome_value?_symbol _ _
      · exact isSome_value?_symbol _ _
      · exact isSome_value?_symbol _ _
      · exact isSome_value?_symbol _ _
      · exact ih h

/-- So no padding is written there. -/
theorem fill_notMem_encode_urlSafe
    (bytes : Bytes) :
    '=' ∉ (encode .urlSafe bytes).toList := by
  intro h
  cases mem_encode_urlSafe h

/-- In the standard form every group is filled. -/
theorem four_dvd_length_encode_standard
    (bytes : Bytes) :
    4 ∣ (encode .standard bytes).length := by
  rw [encode, String.length_ofList]
  fun_induction encodeChars .standard bytes with
  | case1 => exact Nat.dvd_zero 4
  | case2 a => exact Nat.dvd_refl 4
  | case3 a b => exact Nat.dvd_refl 4
  | case4 a b c rest ih =>
      simp only [List.length_cons]
      omega

theorem encode_ne_empty
    {form : Form} {bytes : Bytes}
    (h : bytes ≠ []) :
    encode form bytes ≠ "" := by
  intro hempty
  have hdecode := decode_encode form bytes
  rw [hempty] at hdecode
  exact h (Option.some.inj hdecode).symm

/-- The value of a character in either alphabet. -/
def looseValue? (c : Char) : Option Nat :=
  (value? .standard c).or (value? .urlSafe c)

/-- The whole bytes in a run of values of six bits.  Bits that fill no byte do not count. -/
def looseBytes : List Nat → Bytes
  | a :: b :: c :: d :: rest =>
      UInt8.ofNat (a * 4 + b / 16) :: UInt8.ofNat (b % 16 * 16 + c / 4)
        :: UInt8.ofNat (c % 4 * 64 + d) :: looseBytes rest
  | [a, b, c] => [UInt8.ofNat (a * 4 + b / 16), UInt8.ofNat (b % 16 * 16 + c / 4)]
  | [a, b] => [UInt8.ofNat (a * 4 + b / 16)]
  | [_] | [] => []

/-- The bytes that a text spells to a loose reader, who skips every character that is in neither
alphabet. -/
def loose (text : String) : Bytes :=
  looseBytes (text.toList.filterMap looseValue?)

theorem looseValue?_symbol
    (form : Form) {value : Nat}
    (h : value < 64) :
    looseValue? (symbol form value) = some value := by
  have all : ∀ v < 64, looseValue? (symbol form v) = some v := by cases form <;> decide
  exact all value h

theorem looseValue?_of_value?
    {form : Form} {c : Char} {value : Nat}
    (h : value? form c = some value) :
    looseValue? c = some value := by
  obtain ⟨hlt, rfl⟩ := symbol_of_value? h
  exact looseValue?_symbol form hlt

/-- Padding means nothing to a loose reader. -/
theorem looseValue?_fill :
    looseValue? '=' = none := by
  decide

theorem looseBytes_of_decodeOne
    {form : Form} {p q : Char} {bytes : Bytes}
    (h : decodeOne form p q = some bytes) :
    looseBytes ([p, q].filterMap looseValue?) = bytes := by
  simp only [decodeOne, Option.bind_eq_bind, Option.bind_eq_some_iff] at h
  obtain ⟨a, ha, b, hb, h⟩ := h
  split at h
  · cases h
    simp only [List.filterMap_cons, List.filterMap_nil, looseValue?_of_value? ha,
      looseValue?_of_value? hb, looseBytes]
  · cases h

theorem looseBytes_of_decodeTwo
    {form : Form} {p q r : Char} {bytes : Bytes}
    (h : decodeTwo form p q r = some bytes) :
    looseBytes ([p, q, r].filterMap looseValue?) = bytes := by
  simp only [decodeTwo, Option.bind_eq_bind, Option.bind_eq_some_iff] at h
  obtain ⟨a, ha, b, hb, c, hc, h⟩ := h
  split at h
  · cases h
    simp only [List.filterMap_cons, List.filterMap_nil, looseValue?_of_value? ha,
      looseValue?_of_value? hb, looseValue?_of_value? hc, looseBytes]
  · cases h

theorem looseBytes_of_decodeThree
    {form : Form} {p q r s : Char} {group : Bytes}
    (h : decodeThree form p q r s = some group)
    (rest : List Char) :
    looseBytes ((p :: q :: r :: s :: rest).filterMap looseValue?)
      = group ++ looseBytes (rest.filterMap looseValue?) := by
  simp only [decodeThree, Option.bind_eq_bind, Option.bind_eq_some_iff, Option.some.injEq] at h
  obtain ⟨a, ha, b, hb, c, hc, d, hd, rfl⟩ := h
  simp only [List.filterMap_cons, looseValue?_of_value? ha, looseValue?_of_value? hb,
    looseValue?_of_value? hc, looseValue?_of_value? hd, looseBytes, List.cons_append,
    List.nil_append]

theorem looseBytes_of_decodeChars
    {form : Form} {chars : List Char} {bytes : Bytes}
    (h : decodeChars form chars = some bytes) :
    looseBytes (chars.filterMap looseValue?) = bytes := by
  fun_induction decodeChars form chars generalizing bytes with
  | case1 =>
      cases h
      rfl
  | case2 => cases h
  | case3 => exact looseBytes_of_decodeOne h
  | case4 => cases h
  | case5 => exact looseBytes_of_decodeTwo h
  | case6 p q s rest hlast =>
      obtain ⟨-, rfl, rfl⟩ := hlast
      rw [← looseBytes_of_decodeOne h]
      simp only [List.filterMap_cons, List.filterMap_nil, looseValue?_fill]
  | case7 p q r s rest hlast =>
      obtain ⟨-, rfl, rfl⟩ := hlast
      rw [← looseBytes_of_decodeTwo h]
      simp only [List.filterMap_cons, List.filterMap_nil, looseValue?_fill]
  | case8 p q r s rest _ ih =>
      simp only [Option.bind_eq_bind, Option.bind_eq_some_iff] at h
      obtain ⟨group, hgroup, after, hafter, h⟩ := h
      cases h
      rw [looseBytes_of_decodeThree hgroup, ih hafter]
  | case9 => cases h

/-- What is read means the same to a loose reader. -/
theorem loose_of_decode
    {form : Form} {text : String} {bytes : Bytes}
    (h : decode form text = some bytes) :
    loose text = bytes :=
  looseBytes_of_decodeChars h

/-- So does what is written, in either form. -/
theorem loose_encode
    (form : Form) (bytes : Bytes) :
    loose (encode form bytes) = bytes :=
  loose_of_decode (decode_encode form bytes)

/-- Of all texts that spell the same bytes to a loose reader, only one is read. -/
theorem decode_eq_none_of_loose
    {form : Form} {text other : String} {bytes : Bytes}
    (h : decode form text = some bytes)
    (hloose : loose other = loose text)
    (hne : other ≠ text) :
    decode form other = none := by
  cases hother : decode form other with
  | none => rfl
  | some found =>
      have hsame : found = bytes := by
        rw [← loose_of_decode hother, hloose, loose_of_decode h]
      have heq : other = text := by
        rw [eq_encode_of_decode hother, hsame, ← eq_encode_of_decode h]
      exact absurd heq hne

/-- Padding left off, the other alphabet, a line end, and bits left over: all spell the same to a
loose reader. -/
example :
    ["+/8=", "+/8", "-_8=", "+/8=\n", "+/9="].map loose = List.replicate 5 [0xfb, 0xff] := by
  decide +kernel

end Base64
end WorkloadIdentity
