import WorkloadIdentity.Bytes

/-!
# Text from any bytes

UTF-8 text in which whatever is not UTF-8 is replaced.  A sequence that breaks off is replaced as
a whole, and every byte that begins no sequence by itself.
-/

namespace WorkloadIdentity
namespace Lossy

/-- What stands for bytes that are no text. -/
def replacement : Char := '\uFFFD'

/-- A sequence that has begun: the bits so far, how many bytes are missing, and the bounds of the
next. -/
structure Pending where
  bits : Nat
  missing : Nat
  low : UInt8 := 0x80
  high : UInt8 := 0xBF

/-- What a byte begins: a character of its own, a sequence, or nothing. -/
inductive Start
  | whole (c : Char)
  | sequence (pending : Pending)
  | nothing

/-- What a byte begins. -/
def start (byte : UInt8) : Start :=
  if byte < 0x80 then .whole (Char.ofNat byte.toNat)
  else if 0xC2 ≤ byte ∧ byte ≤ 0xDF then .sequence ⟨byte.toNat % 32, 1, 0x80, 0xBF⟩
  else if byte = 0xE0 then .sequence ⟨0, 2, 0xA0, 0xBF⟩
  else if byte = 0xED then .sequence ⟨13, 2, 0x80, 0x9F⟩
  else if 0xE1 ≤ byte ∧ byte ≤ 0xEF then .sequence ⟨byte.toNat % 16, 2, 0x80, 0xBF⟩
  else if byte = 0xF0 then .sequence ⟨0, 3, 0x90, 0xBF⟩
  else if 0xF1 ≤ byte ∧ byte ≤ 0xF3 then .sequence ⟨byte.toNat % 8, 3, 0x80, 0xBF⟩
  else if byte = 0xF4 then .sequence ⟨4, 3, 0x80, 0x8F⟩
  else .nothing

mutual

def chars : Bytes → List Char
  | [] => []
  | byte :: rest =>
      match start byte with
      | .whole c => c :: chars rest
      | .sequence pending => continued pending rest
      | .nothing => replacement :: chars rest

/-- The characters of the bytes after the beginning of a sequence. -/
def continued (pending : Pending) : Bytes → List Char
  | [] => [replacement]
  | byte :: rest =>
      if pending.low ≤ byte ∧ byte ≤ pending.high then
        let bits := pending.bits * 64 + byte.toNat % 64
        if pending.missing ≤ 1 then Char.ofNat bits :: chars rest
        else continued ⟨bits, pending.missing - 1, 0x80, 0xBF⟩ rest
      else
        match start byte with
        | .whole c => replacement :: c :: chars rest
        | .sequence pending => replacement :: continued pending rest
        | .nothing => replacement :: replacement :: chars rest

end

def text (bytes : Bytes) : String :=
  String.ofList (chars bytes)

end Lossy
end WorkloadIdentity
