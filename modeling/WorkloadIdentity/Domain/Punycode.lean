/-!
# Punycode

Labels with characters outside ASCII written in letters, digits and hyphens (RFC 3492).  The
other characters are written behind the ASCII ones, in ascending order, each as the distance from
the one before.
-/

namespace WorkloadIdentity
namespace Punycode

/-- The letter or digit of a value below 36. -/
def digit (value : Nat) : Char :=
  if value < 26 then Char.ofNat (97 + value) else Char.ofNat (22 + value)

/-- The value of a letter of either case or a digit. -/
def value? (c : Char) : Option Nat :=
  if 'a' ≤ c ∧ c ≤ 'z' then some (c.toNat - 97)
  else if 'A' ≤ c ∧ c ≤ 'Z' then some (c.toNat - 65)
  else if '0' ≤ c ∧ c ≤ '9' then some (c.toNat - 22)
  else none

/-- The least value of a digit at a position that does not end a number. -/
def threshold (position bias : Nat) : Nat :=
  if position ≤ bias + 1 then 1
  else if bias + 26 ≤ position then 26
  else position - bias

theorem threshold_pos
    (position bias : Nat) :
    0 < threshold position bias := by
  unfold threshold
  split
  · omega
  · split <;> omega

/-- The distance divided down until it is small, and the bias gathered on the way. -/
def shrink (distance gathered : Nat) : Nat × Nat :=
  if 455 < distance then shrink (distance / 35) (gathered + 36) else (distance, gathered)
termination_by distance
decreasing_by omega

/-- The bias for the next distance, after one that made a text of `count` characters. -/
def adapt (distance count : Nat) (first : Bool) : Nat :=
  let scaled := if first then distance / 700 else distance / 2
  let (small, gathered) := shrink (scaled + scaled / count) 0
  gathered + 36 * small / (small + 38)

/-- A number in digits of falling weight, the last one below its threshold. -/
def encodeNumber (bias position n : Nat) : List Char :=
  let t := threshold position bias
  if n < t then [digit n]
  else digit (t + (n - t) % (36 - t)) :: encodeNumber bias (position + 36) ((n - t) / (36 - t))
termination_by n
decreasing_by
  have h1 := threshold_pos position bias
  exact Nat.lt_of_le_of_lt (Nat.div_le_self _ _) (by omega)

/-- The state of encoding: the digits so far, the distance, the bias, and how many characters are
written. -/
structure Encoding where
  output : List Char
  distance : Nat
  bias : Nat
  written : Nat

/-- The state after a character of the label, when `code` is the character to be written. -/
def Encoding.pass (basic code : Nat) (state : Encoding) (c : Char) : Encoding :=
  if c.toNat < code then { state with distance := state.distance + 1 }
  else if c.toNat = code then
    ⟨state.output ++ encodeNumber state.bias 36 state.distance, 0,
      adapt state.distance (state.written + 1) (state.written == basic), state.written + 1⟩
  else state

/-- The distances of the given characters of a label, in ascending order, from `start` on. -/
def encodeCodes (label : List Char) (basic : Nat) : List Nat → Nat → Encoding → Encoding
  | [], _, state => state
  | code :: codes, start, state =>
      let state :=
        { state with distance := state.distance + (code - start) * (state.written + 1) }
      let state := label.foldl (Encoding.pass basic code) state
      encodeCodes label basic codes (code + 1) { state with distance := state.distance + 1 }

/-- The label in letters, digits and hyphens. -/
def encode (label : List Char) : List Char :=
  let basic := label.filter fun c => c.toNat < 128
  let codes := ((label.filter fun c => 128 ≤ c.toNat).map Char.toNat).mergeSort.eraseReps
  let state := encodeCodes label basic.length codes 128 ⟨[], 0, 72, basic.length⟩
  basic ++ (if basic.isEmpty then [] else ['-']) ++ state.output

/-- The number at the head of the characters added to `total`, and the characters after it. -/
def decodeNumber? (bias position weight total : Nat) : List Char → Option (Nat × List Char)
  | [] => none
  | c :: rest =>
      match value? c with
      | none => none
      | some value =>
          let t := threshold position bias
          if value < t then some (total + value * weight, rest)
          else decodeNumber? bias (position + 36) (weight * (36 - t)) (total + value * weight) rest

theorem length_decodeNumber?
    {bias position weight total n : Nat} {chars rest : List Char}
    (h : decodeNumber? bias position weight total chars = some (n, rest)) :
    rest.length < chars.length := by
  induction chars generalizing position weight total with
  | nil => cases h
  | cons c chars ih =>
      simp only [decodeNumber?] at h
      split at h
      · cases h
      · split at h
        · cases h
          simp
        · have := ih h
          simp
          omega

/-- The text with the characters that the distances place into it. -/
def decodeCodes? (bias code place : Nat) (text chars : List Char) : Option (List Char) :=
  if chars = [] then some text
  else
    match _h : decodeNumber? bias 36 1 place chars with
    | none => none
    | some (n, rest) =>
        let count := text.length + 1
        let code := code + n / count
        if code.isValidChar then
          decodeCodes? (adapt (n - place) count (place == 0)) code (n % count + 1)
            (text.insertIdx (n % count) (Char.ofNat code)) rest
        else none
termination_by chars.length
decreasing_by exact length_decodeNumber? _h

/-- The label that ASCII characters spell; what stands before the last hyphen is kept. -/
def decode? (chars : List Char) : Option (List Char) :=
  let tail := (chars.reverse.takeWhile (· ≠ '-')).reverse
  let basic := chars.take (chars.length - tail.length - 1)
  if basic.any (fun c => 128 ≤ c.toNat) then none
  else if basic = [] then decodeCodes? 72 128 0 [] chars
  else decodeCodes? 72 128 0 basic tail

end Punycode
end WorkloadIdentity
