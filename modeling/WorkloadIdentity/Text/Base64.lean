import WorkloadIdentity.Bytes

/-!
# Base64 text

Bytes in groups of six bits, in the standard alphabet with padding and in the URL-safe alphabet
without.  Decoding is strict: each byte string has one spelling in each form.

* `decode_encode`: what is written is read back.
* `eq_encode_of_decode`: nothing else is read.
-/

namespace WorkloadIdentity
namespace Base64

/-- The two ways in which bytes are written: in the standard alphabet and padded, or in the URL-safe
alphabet and without padding. -/
inductive Form
  | standard
  | urlSafe
  deriving DecidableEq, Repr

/-- The characters of the values 62 and 63. -/
def Form.last : Form → Char × Char
  | standard => ('+', '/')
  | urlSafe => ('-', '_')

/-- Whether `=` fills the last group of four. -/
def Form.padded : Form → Bool
  | standard => true
  | urlSafe => false

def symbol (form : Form) (value : Nat) : Char :=
  if value < 26 then Char.ofNat (65 + value)
  else if value < 52 then Char.ofNat (71 + value)
  else if value < 62 then Char.ofNat (value - 4)
  else if value = 62 then form.last.1
  else form.last.2

def value? (form : Form) (c : Char) : Option Nat :=
  if 'A' ≤ c ∧ c ≤ 'Z' then some (c.toNat - 65)
  else if 'a' ≤ c ∧ c ≤ 'z' then some (c.toNat - 71)
  else if '0' ≤ c ∧ c ≤ '9' then some (c.toNat + 4)
  else if c = form.last.1 then some 62
  else if c = form.last.2 then some 63
  else none

/-- The padding of a group that lacks `count` characters. -/
def padding (form : Form) (count : Nat) : List Char :=
  if form.padded then List.replicate count '=' else []

/-- The characters of the bytes, three bytes to a group. -/
def encodeChars (form : Form) : Bytes → List Char
  | [] => []
  | [a] =>
      symbol form (a.toNat / 4) :: symbol form (a.toNat % 4 * 16) :: padding form 2
  | [a, b] =>
      symbol form (a.toNat / 4) :: symbol form (a.toNat % 4 * 16 + b.toNat / 16)
        :: symbol form (b.toNat % 16 * 4) :: padding form 1
  | a :: b :: c :: rest =>
      symbol form (a.toNat / 4) :: symbol form (a.toNat % 4 * 16 + b.toNat / 16)
        :: symbol form (b.toNat % 16 * 4 + c.toNat / 64) :: symbol form (c.toNat % 64)
        :: encodeChars form rest

def encode (form : Form) (bytes : Bytes) : String :=
  String.ofList (encodeChars form bytes)

/-- One byte from the last two characters of a text, whose unused bits are zero. -/
def decodeOne (form : Form) (p q : Char) : Option Bytes := do
  let a ← value? form p
  let b ← value? form q
  if b % 16 = 0 then some [UInt8.ofNat (a * 4 + b / 16)] else none

/-- Two bytes from the last three characters of a text, whose unused bits are zero. -/
def decodeTwo (form : Form) (p q r : Char) : Option Bytes := do
  let a ← value? form p
  let b ← value? form q
  let c ← value? form r
  if c % 4 = 0 then
    some [UInt8.ofNat (a * 4 + b / 16), UInt8.ofNat (b % 16 * 16 + c / 4)]
  else
    none

/-- Three bytes from a full group of four characters. -/
def decodeThree (form : Form) (p q r s : Char) : Option Bytes := do
  let a ← value? form p
  let b ← value? form q
  let c ← value? form r
  let d ← value? form s
  some [UInt8.ofNat (a * 4 + b / 16), UInt8.ofNat (b % 16 * 16 + c / 4),
    UInt8.ofNat (c % 4 * 64 + d)]

/-- The bytes of a text in groups of four, whose last group is padded exactly where the form
asks for it. -/
def decodeChars (form : Form) : List Char → Option Bytes
  | [] => some []
  | [p, q] => if form.padded then none else decodeOne form p q
  | [p, q, r] => if form.padded then none else decodeTwo form p q r
  | p :: q :: r :: s :: rest =>
      if form.padded ∧ rest = [] ∧ s = '=' then
        if r = '=' then decodeOne form p q else decodeTwo form p q r
      else do
        let group ← decodeThree form p q r s
        let bytes ← decodeChars form rest
        return group ++ bytes
  | _ => none

/-- The bytes that a text spells in the given form. -/
def decode (form : Form) (text : String) : Option Bytes :=
  decodeChars form text.toList

theorem value?_symbol
    (form : Form) {value : Nat}
    (h : value < 64) :
    value? form (symbol form value) = some value := by
  have all : ∀ v < 64, value? form (symbol form v) = some v := by cases form <;> decide
  exact all value h

theorem char_le_iff
    (a b : Char) :
    a ≤ b ↔ a.toNat ≤ b.toNat := by
  rfl

theorem symbol_of_value?
    {form : Form} {c : Char} {value : Nat}
    (h : value? form c = some value) :
    value < 64 ∧ symbol form value = c := by
  have upper : 'A'.toNat = 65 ∧ 'Z'.toNat = 90 := ⟨rfl, rfl⟩
  have lower : 'a'.toNat = 97 ∧ 'z'.toNat = 122 := ⟨rfl, rfl⟩
  have digit : '0'.toNat = 48 ∧ '9'.toNat = 57 := ⟨rfl, rfl⟩
  simp only [value?, char_le_iff, upper, lower, digit] at h
  split at h
  · next hc =>
    cases h
    refine ⟨by omega, ?_⟩
    rw [symbol, if_pos (by omega), Nat.add_sub_cancel' hc.1, Char.ofNat_toNat]
  · split at h
    · next hc =>
      cases h
      refine ⟨by omega, ?_⟩
      rw [symbol, if_neg (by omega), if_pos (by omega), Nat.add_sub_cancel' (by omega),
        Char.ofNat_toNat]
    · split at h
      · next hc =>
        cases h
        refine ⟨by omega, ?_⟩
        rw [symbol, if_neg (by omega), if_neg (by omega), if_pos (by omega), Nat.add_sub_cancel,
          Char.ofNat_toNat]
      · split at h
        · next hc =>
          cases h
          exact ⟨by decide, hc.symm⟩
        · split at h
          · next hc =>
            cases h
            exact ⟨by decide, hc.symm⟩
          · cases h

theorem decodeTwo_symbols
    (form : Form) (a b : UInt8) :
    decodeTwo form (symbol form (a.toNat / 4)) (symbol form (a.toNat % 4 * 16 + b.toNat / 16))
      (symbol form (b.toNat % 16 * 4)) = some [a, b] := by
  have ha := a.toNat_lt
  have hb := b.toNat_lt
  have first : a.toNat / 4 * 4 + (a.toNat % 4 * 16 + b.toNat / 16) / 16 = a.toNat := by omega
  have second : (a.toNat % 4 * 16 + b.toNat / 16) % 16 * 16 + b.toNat % 16 * 4 / 4 = b.toNat := by
    omega
  simp only [decodeTwo, value?_symbol form (show a.toNat / 4 < 64 by omega),
    value?_symbol form (show a.toNat % 4 * 16 + b.toNat / 16 < 64 by omega),
    value?_symbol form (show b.toNat % 16 * 4 < 64 by omega), Option.bind_eq_bind,
    Option.bind_some, first, second, UInt8.ofNat_toNat]
  rw [if_pos (by omega)]

theorem decodeThree_symbols
    (form : Form) (a b c : UInt8) :
    decodeThree form (symbol form (a.toNat / 4)) (symbol form (a.toNat % 4 * 16 + b.toNat / 16))
      (symbol form (b.toNat % 16 * 4 + c.toNat / 64)) (symbol form (c.toNat % 64))
      = some [a, b, c] := by
  have ha := a.toNat_lt
  have hb := b.toNat_lt
  have hc := c.toNat_lt
  have first : a.toNat / 4 * 4 + (a.toNat % 4 * 16 + b.toNat / 16) / 16 = a.toNat := by omega
  have second : (a.toNat % 4 * 16 + b.toNat / 16) % 16 * 16
      + (b.toNat % 16 * 4 + c.toNat / 64) / 4 = b.toNat := by omega
  have third : (b.toNat % 16 * 4 + c.toNat / 64) % 4 * 64 + c.toNat % 64 = c.toNat := by omega
  simp only [decodeThree, value?_symbol form (show a.toNat / 4 < 64 by omega),
    value?_symbol form (show a.toNat % 4 * 16 + b.toNat / 16 < 64 by omega),
    value?_symbol form (show b.toNat % 16 * 4 + c.toNat / 64 < 64 by omega),
    value?_symbol form (show c.toNat % 64 < 64 by omega), Option.bind_eq_bind,
    Option.bind_some, first, second, third, UInt8.ofNat_toNat]

theorem symbols_of_decodeOne
    {form : Form} {p q : Char} {bytes : Bytes}
    (h : decodeOne form p q = some bytes) :
    ∃ a : UInt8, bytes = [a] ∧ p = symbol form (a.toNat / 4)
      ∧ q = symbol form (a.toNat % 4 * 16) := by
  simp only [decodeOne, Option.bind_eq_bind, Option.bind_eq_some_iff] at h
  obtain ⟨u, hu, v, hv, h⟩ := h
  obtain ⟨ult, rfl⟩ := symbol_of_value? hu
  obtain ⟨vlt, rfl⟩ := symbol_of_value? hv
  split at h
  · cases h
    have hbyte : (UInt8.ofNat (u * 4 + v / 16)).toNat = u * 4 + v / 16 := by
      rw [UInt8.toNat_ofNat']
      omega
    refine ⟨_, rfl, ?_, ?_⟩ <;> rw [hbyte] <;> congr 1 <;> omega
  · cases h

theorem symbols_of_decodeTwo
    {form : Form} {p q r : Char} {bytes : Bytes}
    (h : decodeTwo form p q r = some bytes) :
    ∃ a b : UInt8, bytes = [a, b] ∧ p = symbol form (a.toNat / 4)
      ∧ q = symbol form (a.toNat % 4 * 16 + b.toNat / 16)
      ∧ r = symbol form (b.toNat % 16 * 4) := by
  simp only [decodeTwo, Option.bind_eq_bind, Option.bind_eq_some_iff] at h
  obtain ⟨u, hu, v, hv, w, hw, h⟩ := h
  obtain ⟨ult, rfl⟩ := symbol_of_value? hu
  obtain ⟨vlt, rfl⟩ := symbol_of_value? hv
  obtain ⟨wlt, rfl⟩ := symbol_of_value? hw
  split at h
  · cases h
    have first : (UInt8.ofNat (u * 4 + v / 16)).toNat = u * 4 + v / 16 := by
      rw [UInt8.toNat_ofNat']
      omega
    have second : (UInt8.ofNat (v % 16 * 16 + w / 4)).toNat = v % 16 * 16 + w / 4 := by
      rw [UInt8.toNat_ofNat']
      omega
    refine ⟨_, _, rfl, ?_, ?_, ?_⟩ <;> simp only [first, second] <;> congr 1 <;> omega
  · cases h

theorem symbols_of_decodeThree
    {form : Form} {p q r s : Char} {bytes : Bytes}
    (h : decodeThree form p q r s = some bytes) :
    ∃ a b c : UInt8, bytes = [a, b, c] ∧ p = symbol form (a.toNat / 4)
      ∧ q = symbol form (a.toNat % 4 * 16 + b.toNat / 16)
      ∧ r = symbol form (b.toNat % 16 * 4 + c.toNat / 64)
      ∧ s = symbol form (c.toNat % 64) := by
  simp only [decodeThree, Option.bind_eq_bind, Option.bind_eq_some_iff, Option.some.injEq] at h
  obtain ⟨u, hu, v, hv, w, hw, x, hx, rfl⟩ := h
  obtain ⟨ult, rfl⟩ := symbol_of_value? hu
  obtain ⟨vlt, rfl⟩ := symbol_of_value? hv
  obtain ⟨wlt, rfl⟩ := symbol_of_value? hw
  obtain ⟨xlt, rfl⟩ := symbol_of_value? hx
  have first : (UInt8.ofNat (u * 4 + v / 16)).toNat = u * 4 + v / 16 := by
    rw [UInt8.toNat_ofNat']
    omega
  have second : (UInt8.ofNat (v % 16 * 16 + w / 4)).toNat = v % 16 * 16 + w / 4 := by
    rw [UInt8.toNat_ofNat']
    omega
  have third : (UInt8.ofNat (w % 4 * 64 + x)).toNat = w % 4 * 64 + x := by
    rw [UInt8.toNat_ofNat']
    omega
  refine ⟨_, _, _, rfl, ?_, ?_, ?_, ?_⟩ <;> simp only [first, second, third] <;> congr 1 <;>
    omega

theorem symbol_ne_fill
    (form : Form) {value : Nat}
    (h : value < 64) :
    symbol form value ≠ '=' := by
  have all : ∀ v < 64, symbol form v ≠ '=' := by cases form <;> decide
  exact all value h

theorem decodeOne_symbols
    (form : Form) (a : UInt8) :
    decodeOne form (symbol form (a.toNat / 4)) (symbol form (a.toNat % 4 * 16)) = some [a] := by
  have ha := a.toNat_lt
  have first : a.toNat / 4 * 4 + a.toNat % 4 * 16 / 16 = a.toNat := by omega
  simp only [decodeOne, value?_symbol form (show a.toNat / 4 < 64 by omega),
    value?_symbol form (show a.toNat % 4 * 16 < 64 by omega), Option.bind_eq_bind,
    Option.bind_some, first, UInt8.ofNat_toNat]
  rw [if_pos (by omega)]

theorem decodeChars_encodeChars
    (form : Form) (bytes : Bytes) :
    decodeChars form (encodeChars form bytes) = some bytes := by
  fun_induction encodeChars form bytes with
  | case1 => rfl
  | case2 a =>
      cases form <;> exact decodeOne_symbols _ a
  | case3 a b =>
      have hne := symbol_ne_fill .standard (show b.toNat % 16 * 4 < 64 by omega)
      cases form
      · simp only [padding, Form.padded, if_true, List.replicate, decodeChars, if_neg hne]
        exact decodeTwo_symbols _ a b
      · exact decodeTwo_symbols _ a b
  | case4 a b c rest ih =>
      have hne := symbol_ne_fill form (show c.toNat % 64 < 64 by omega)
      simp only [decodeChars, hne, and_false, if_false, decodeThree_symbols, ih,
        Option.bind_eq_bind, Option.bind_some]
      rfl

theorem eq_encodeChars_of_decodeChars
    {form : Form} {chars : List Char} {bytes : Bytes}
    (h : decodeChars form chars = some bytes) :
    chars = encodeChars form bytes := by
  fun_induction decodeChars form chars generalizing bytes with
  | case1 =>
      cases h
      rfl
  | case2 => cases h
  | case3 p q hform =>
      obtain ⟨a, rfl, rfl, rfl⟩ := symbols_of_decodeOne h
      simp [encodeChars, padding, hform]
  | case4 => cases h
  | case5 p q r hform =>
      obtain ⟨a, b, rfl, rfl, rfl, rfl⟩ := symbols_of_decodeTwo h
      simp [encodeChars, padding, hform]
  | case6 p q s rest hlast =>
      obtain ⟨hform, rfl, rfl⟩ := hlast
      obtain ⟨a, rfl, rfl, rfl⟩ := symbols_of_decodeOne h
      simp [encodeChars, padding, hform, List.replicate]
  | case7 p q r s rest hlast =>
      obtain ⟨hform, rfl, rfl⟩ := hlast
      obtain ⟨a, b, rfl, rfl, rfl, rfl⟩ := symbols_of_decodeTwo h
      simp [encodeChars, padding, hform]
  | case8 p q r s rest hlast ih =>
      simp only [Option.bind_eq_bind, Option.bind_eq_some_iff] at h
      obtain ⟨group, hgroup, after, hafter, h⟩ := h
      cases h
      obtain ⟨a, b, c, rfl, rfl, rfl, rfl, rfl⟩ := symbols_of_decodeThree hgroup
      simp [encodeChars, ih hafter]
  | case9 => cases h

@[simp] theorem decode_encode
    (form : Form) (bytes : Bytes) :
    decode form (encode form bytes) = some bytes := by
  simp [decode, encode, decodeChars_encodeChars]

theorem eq_encode_of_decode
    {form : Form} {text : String} {bytes : Bytes}
    (h : decode form text = some bytes) :
    text = encode form bytes := by
  rw [encode, ← eq_encodeChars_of_decodeChars h, String.ofList_toList]

end Base64
end WorkloadIdentity
