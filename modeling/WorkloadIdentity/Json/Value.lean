/-!
# JSON values

A JSON document as it is written: members keep their order and may repeat, numbers keep their
digits, and a string literal whose escapes pair no surrogates has no text.
-/

namespace WorkloadIdentity

/-- The text of a string literal; none where a surrogate escape stands alone. -/
abbrev Literal := Option String

/-- A number as it is spelled. -/
structure Numeral where
  /-- Whether a minus sign stands before it. -/
  negative : Bool := false
  /-- The digits before the point. -/
  whole : List Char
  /-- The digits after the point, none where there is no point. -/
  fraction : List Char := []
  /-- The power of ten that is written out. -/
  exponent : Option Int := none
  deriving DecidableEq, Repr

inductive Json
  | null
  | bool (value : Bool)
  | number (numeral : Numeral)
  | text (literal : Literal)
  | array (items : List Json)
  | object (members : List (Literal × Json))
  deriving Repr, Inhabited

end WorkloadIdentity
