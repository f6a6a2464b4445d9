/-!
# Byte strings

Byte strings, their big-endian reading as natural numbers, and the bytes of a text.

* `toNat_ofNat`: a number is read back from its shortest big-endian form.
* `toNat_fixed`: and from every fixed width that holds it.
* `length_ofNat_le`: a number has no more bytes than it needs.
* `head?_ofNat_ne_zero`: the shortest form of a positive number does not begin with a zero.
* `utf8EncodeChar_cases`: characters of ASCII are one byte, and no byte of another is in ASCII.
* `text?_ofText`: UTF-8 text is read back from its bytes, and `ofText_of_text?` conversely.
-/

namespace WorkloadIdentity

abbrev Bytes := List UInt8

namespace Bytes

/-- The number that a byte string spells, most significant byte first. -/
def toNat (bytes : Bytes) : Nat :=
  bytes.foldl (fun total byte => total * 256 + byte.toNat) 0

/-- The shortest big-endian bytes of a positive number, before the bytes already collected. -/
def digits (n : Nat) (after : Bytes) : Bytes :=
  if n = 0 then after else digits (n / 256) (UInt8.ofNat n :: after)
termination_by n
decreasing_by omega

/-- The shortest big-endian form of a number; zero is one byte. -/
def ofNat (n : Nat) : Bytes :=
  if n = 0 then [0] else digits n []

/-- The last `width` bytes of the big-endian form of a number, padded with zeros in front. -/
def fixed : (width n : Nat) → Bytes
  | 0, _ => []
  | width + 1, n => fixed width (n / 256) ++ [UInt8.ofNat n]

/-- The UTF-8 bytes of a text. -/
def ofText (text : String) : Bytes :=
  text.toByteArray.data.toList

/-- The text that the bytes spell in UTF-8, if they do. -/
def text? (bytes : Bytes) : Option String :=
  String.fromUTF8? ⟨bytes.toArray⟩

/-- Byte by byte exclusive or, as long as both strings last. -/
def xor (a b : Bytes) : Bytes :=
  List.zipWith (· ^^^ ·) a b

/-- The bytes cut into pieces of `size` bytes; the last piece may be shorter. -/
def chunks (size : Nat) (bytes : Bytes) : List Bytes :=
  if _h : size = 0 ∨ bytes = [] then []
  else bytes.take size :: chunks size (bytes.drop size)
termination_by bytes.length
decreasing_by
  have : bytes.length ≠ 0 := fun h' => _h (.inr (List.eq_nil_of_length_eq_zero h'))
  simp only [List.length_drop]
  omega

@[simp] theorem toNat_nil :
    toNat [] = 0 := by
  rfl

@[simp] theorem toNat_concat
    (bytes : Bytes) (byte : UInt8) :
    toNat (bytes ++ [byte]) = toNat bytes * 256 + byte.toNat := by
  simp [toNat]

theorem power_succ
    (base exponent : Nat) :
    Nat.pow base (exponent + 1) = Nat.pow base exponent * base := by
  rfl

theorem foldl_add
    (bytes : Bytes) (start : Nat) :
    bytes.foldl (fun total byte => total * 256 + byte.toNat) start
      = start * Nat.pow 256 bytes.length + toNat bytes := by
  induction bytes generalizing start with
  | nil =>
      simp
  | cons byte bytes ih =>
      simp only [toNat, List.foldl_cons, List.length_cons]
      rw [ih, ih (0 * 256 + byte.toNat), power_succ]
      simp only [Nat.add_mul, Nat.zero_mul, Nat.zero_add, Nat.mul_assoc, Nat.add_assoc]
      rw [Nat.mul_comm 256]

theorem toNat_cons
    (byte : UInt8) (bytes : Bytes) :
    toNat (byte :: bytes) = byte.toNat * Nat.pow 256 bytes.length + toNat bytes := by
  simpa [toNat] using foldl_add bytes byte.toNat

theorem toNat_digits
    (n : Nat) (after : Bytes) :
    toNat (digits n after) = n * Nat.pow 256 after.length + toNat after := by
  induction n using Nat.strongRecOn generalizing after with
  | _ n ih =>
      rw [digits]
      split
      · next h => simp [h]
      · next h =>
        rw [ih (n / 256) (by omega), toNat_cons]
        have hn : (UInt8.ofNat n).toNat = n % 256 := by simp
        rw [hn, List.length_cons, power_succ, ← Nat.add_assoc]
        congr 1
        rw [Nat.mul_comm (Nat.pow 256 after.length), ← Nat.mul_assoc, ← Nat.add_mul]
        congr 1
        omega

@[simp] theorem toNat_ofNat
    (n : Nat) :
    toNat (ofNat n) = n := by
  unfold ofNat
  split
  · next h => simp [h, toNat]
  · simp [toNat_digits]

@[simp] theorem length_fixed
    (width n : Nat) :
    (fixed width n).length = width := by
  induction width generalizing n with
  | zero =>
      rfl
  | succ width ih =>
      simp [fixed, ih]

theorem toNat_fixed
    {width n : Nat}
    (h : n < Nat.pow 256 width) :
    toNat (fixed width n) = n := by
  induction width generalizing n with
  | zero =>
      simp at h
      simp [fixed, h]
  | succ width ih =>
      rw [power_succ] at h
      rw [fixed, toNat_concat, ih (by omega)]
      have hn : (UInt8.ofNat n).toNat = n % 256 := by simp
      omega

theorem length_digits_le
    {width n : Nat}
    (h : n < Nat.pow 256 width) (after : Bytes) :
    (digits n after).length ≤ width + after.length := by
  induction width generalizing n after with
  | zero =>
      simp at h
      rw [digits, if_pos h]
      omega
  | succ width ih =>
      rw [power_succ] at h
      rw [digits]
      split
      · omega
      · have := ih (show n / 256 < Nat.pow 256 width by omega) (UInt8.ofNat n :: after)
        simp only [List.length_cons] at this
        omega

theorem length_ofNat_le
    {width n : Nat}
    (hwidth : 0 < width) (h : n < Nat.pow 256 width) :
    (ofNat n).length ≤ width := by
  unfold ofNat
  split
  · exact hwidth
  · simpa using length_digits_le h []

theorem head?_digits_ne_zero
    {n : Nat}
    (h : 0 < n) (after : Bytes) :
    (digits n after).head? ≠ some 0 := by
  induction n using Nat.strongRecOn generalizing after with
  | _ n ih =>
      rw [digits, if_neg (by omega)]
      by_cases hlast : n / 256 = 0
      · -- no digit is left, and the last one is the number itself
        rw [digits, if_pos hlast]
        intro hzero
        have hbyte := congrArg UInt8.toNat (Option.some.inj hzero)
        rw [UInt8.toNat_ofNat'] at hbyte
        have : (0 : UInt8).toNat = 0 := rfl
        omega
      · exact ih (n / 256) (by omega) (by omega) _

theorem head?_ofNat_ne_zero
    {n : Nat}
    (h : 0 < n) :
    (ofNat n).head? ≠ some 0 := by
  rw [ofNat, if_neg (by omega)]
  exact head?_digits_ne_zero h []

theorem ofText_ofList
    (chars : List Char) :
    ofText (String.ofList chars) = chars.flatMap String.utf8EncodeChar := by
  simp [ofText, List.utf8Encode]

/-- A character of ASCII is encoded with its own number, and every byte of another is beyond
ASCII. -/
theorem utf8EncodeChar_cases
    (c : Char) :
    (c.toNat < 128 ∧ String.utf8EncodeChar c = [UInt8.ofNat c.toNat]) ∨
      (128 ≤ c.toNat ∧ ∀ byte ∈ String.utf8EncodeChar c, 128 ≤ byte.toNat) := by
  have hvalue : c.toNat = c.val.toNat := rfl
  simp only [String.utf8EncodeChar, hvalue]
  generalize c.val.toNat = value
  by_cases hascii : value ≤ 127
  · exact Or.inl ⟨by omega, if_pos hascii⟩
  · refine Or.inr ⟨by omega, ?_⟩
    rw [if_neg hascii]
    split
    · simp
      omega
    · split
      · simp
        omega
      · simp
        omega

@[simp] theorem text?_ofText
    (text : String) :
    text? (ofText text) = some text := by
  have h : (⟨(ofText text).toArray⟩ : ByteArray) = text.toByteArray := by
    simp [ofText]
  rw [text?, h, String.fromUTF8?]
  split
  · rfl
  · next h => exact absurd text.isValidUTF8 h

theorem ofText_of_text?
    {bytes : Bytes} {text : String}
    (h : text? bytes = some text) :
    ofText text = bytes := by
  rw [text?, String.fromUTF8?] at h
  split at h
  · cases h
    simp [ofText, String.fromUTF8]
  · cases h

end Bytes
end WorkloadIdentity
