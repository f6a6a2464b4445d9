import WorkloadIdentity.Bytes
import WorkloadIdentity.Domain.Name
import WorkloadIdentity.Text.Percent

/-!
# Hosts

The hosts of addresses: domain names, the two kinds of internet address in all their spellings, and
the uninterpreted hosts of schemes without rules of their own.
-/

namespace WorkloadIdentity
namespace Url

inductive Host
  | domain (name : String)
  | ipv4 (address : Nat)
  | ipv6 (pieces : List Nat)
  | plain (text : String)
  deriving DecidableEq, Repr

/-- The number that digits of a base spell. -/
def spell (base : Nat) (digits : List Nat) : Nat :=
  digits.foldl (fun total digit => total * base + digit) 0

/-- The value of a digit of a base up to sixteen. -/
def digit? (base : Nat) (c : Char) : Option Nat :=
  (Hex.value? c).filter fun value => value < base

/-- The number that a part of an address spells: hexadecimal after `0x`, octal after `0`. -/
def partNumber? : List Char → Option Nat
  | [] => none
  | '0' :: 'x' :: rest | '0' :: 'X' :: rest => (rest.mapM (digit? 16)).map (spell 16)
  | '0' :: c :: rest => ((c :: rest).mapM (digit? 8)).map (spell 8)
  | chars => (chars.mapM (digit? 10)).map (spell 10)

/-- A host ends in a number when its last label, before at most one dot, looks like one. -/
def endsInNumber (name : List Char) : Bool :=
  let last := match (Domain.labels name).reverse with
    | [] :: label :: _ => label
    | label :: _ => label
    | [] => []
  last != [] && (last.all Char.isDigit || (partNumber? last).isSome)

/-- The address that the parts give: the last one fills all the bytes that are left. -/
def ipv4OfParts? (parts : List Nat) : Option Nat :=
  match parts.reverse with
  | [] => none
  | last :: before =>
      let size := Nat.pow 256 (5 - parts.length)
      if parts.length ≤ 4 ∧ before.all (· < 256) ∧ last < size then
        some (spell 256 before.reverse * size + last)
      else none

/-- The address that a host ending in a number spells. -/
def ipv4? (name : List Char) : Option Nat := do
  let labels := Domain.labels name
  let labels := if labels.getLast? = some [] then labels.dropLast else labels
  ipv4OfParts? (← labels.mapM partNumber?)

/-- The pieces read so far, and those behind a gap of zeros. -/
structure Pieces where
  before : List Nat
  after : Option (List Nat)

namespace Pieces

/-- The number of pieces, a gap counting as one. -/
def count (pieces : Pieces) : Nat :=
  pieces.before.length + (pieces.after.map (·.length + 1)).getD 0

def push (pieces : Pieces) (piece : Nat) : Pieces :=
  match pieces.after with
  | none => { pieces with before := pieces.before ++ [piece] }
  | some after => { pieces with after := some (after ++ [piece]) }

/-- The eight pieces, the gap filled with zeros. -/
def toList? (pieces : Pieces) : Option (List Nat) :=
  match pieces.after with
  | none => if pieces.before.length = 8 then some pieces.before else none
  | some after =>
      some (pieces.before ++ List.replicate (8 - pieces.before.length - after.length) 0 ++ after)

end Pieces

/-- A number below 256 in decimal digits without a leading zero. -/
def byteNumber? (chars : List Char) : Option Nat := do
  let digits ← chars.mapM (digit? 10)
  let value := spell 10 digits
  if digits ≠ [] ∧ (digits.length = 1 ∨ digits.head? ≠ some 0) ∧ value < 256 then some value
  else none

/-- The two pieces that an address in four parts makes. -/
def embedded? (chars : List Char) : Option (Nat × Nat) := do
  match ← (Domain.labels chars).mapM byteNumber? with
  | [a, b, c, d] => some (a * 256 + b, c * 256 + d)
  | _ => none

/-- The pieces that the characters add to those already read. -/
def pieces? (pieces : Pieces) (chars : List Char) : Option Pieces :=
  match chars with
  | [] => some pieces
  | c :: tail =>
      if pieces.count = 8 then none
      else if c = ':' then
        if pieces.after.isSome then none else pieces? { pieces with after := some [] } tail
      else
        let digits := ((c :: tail).take 4).takeWhile fun c => (Hex.value? c).isSome
        let value := spell 16 (digits.filterMap Hex.value?)
        match _h : (c :: tail).drop digits.length with
        | [] => some (pieces.push value)
        | '.' :: _ =>
            if digits = [] ∨ 6 < pieces.count then none
            else (embedded? (c :: tail)).map fun (a, b) => (pieces.push a).push b
        | ':' :: rest => if rest = [] then none else pieces? (pieces.push value) rest
        | _ => none
termination_by chars.length
decreasing_by
  · simp
  · have h := congrArg List.length _h
    simp only [List.length_drop, List.length_cons] at h
    simp only [List.length_cons]
    omega

/-- The address between square brackets. -/
def ipv6? (chars : List Char) : Option (List Nat) :=
  match chars with
  | ':' :: ':' :: rest => (pieces? ⟨[], some []⟩ rest).bind Pieces.toList?
  | ':' :: _ | [] | [_] => none
  | _ => (pieces? ⟨[], none⟩ chars).bind Pieces.toList?

/-- The address inside square brackets, or the given reading of any other host. -/
def bracketed? (chars : List Char) (other : Option Host) : Option Host :=
  if chars.head? = some '[' then
    if chars.getLast? = some ']' then
      (ipv6? (chars.drop 1).dropLast).map Host.ipv6
    else none
  else other

/-- The host of a web address. -/
def webHost? (chars : List Char) : Option Host :=
  bracketed? chars do
    let text ← Bytes.text? (Percent.decode (Bytes.ofText (String.ofList chars)))
    let name ← Domain.toAscii? text.toList
    if name = [] then none
    else if endsInNumber name then (ipv4? name).map Host.ipv4
    else some (.domain (String.ofList name))

/-- The characters that no uninterpreted host contains. -/
def isForbiddenPlain (c : Char) : Bool :=
  c == '\x00' || "\t\n\r #/:<>?@[\\]^|".toList.contains c

/-- The host of an address whose scheme has no rules for hosts. -/
def plainHost? (chars : List Char) : Option Host :=
  bracketed? chars
    (if chars.any isForbiddenPlain then none else some (.plain (String.ofList chars)))

end Url
end WorkloadIdentity
