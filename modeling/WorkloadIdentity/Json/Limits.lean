import WorkloadIdentity.Json.Numeral

/-!
# Values that are kept before they are read

Where a value may have one of several shapes, it is taken in whole first.  Such a value must not
nest too deeply, its numbers must be within the range of doubles, and its strings must have texts;
elsewhere a member that counts for nothing is passed over unread.
-/

namespace WorkloadIdentity
namespace Json

/-- The greatest number of containers of a document that enclose each other around a kept
value. -/
def maxNesting : Nat := 127

mutual

/-- The value can be kept when `room` more containers may enclose each other. -/
def isKept (room : Nat) : Json → Bool
  | null => true
  | bool _ => true
  | number numeral => numeral.isFinite
  | text literal => literal.isSome
  | array items => 0 < room && areKept (room - 1) items
  | object members => 0 < room && membersAreKept (room - 1) members

/-- The items can all be kept. -/
def areKept (room : Nat) : List Json → Bool
  | [] => true
  | item :: items => isKept room item && areKept room items

/-- The keys and values of the members can all be kept. -/
def membersAreKept (room : Nat) : List (Literal × Json) → Bool
  | [] => true
  | (key, value) :: members => key.isSome && isKept room value && membersAreKept room members

end

/-- The value, if it can be kept inside `depth` containers. -/
def kept? (depth : Nat) (json : Json) : Option Json :=
  if json.isKept (maxNesting - depth) then some json else none

end Json
end WorkloadIdentity
