/-!
# White space

The characters with the Unicode property `White_Space`, and the text without those at its ends.
-/

namespace WorkloadIdentity

/-- The white-space characters of Unicode. -/
def isBlank (c : Char) : Bool :=
  let n := c.toNat
  (9 ≤ n && n ≤ 13) || n == 0x20 || n == 0x85 || n == 0xA0 || n == 0x1680
    || (0x2000 ≤ n && n ≤ 0x200A) || n == 0x2028 || n == 0x2029 || n == 0x202F
    || n == 0x205F || n == 0x3000

/-- The list without the elements at its end that satisfy `p`. -/
def dropEnd {α : Type} (p : α → Bool) (items : List α) : List α :=
  (items.reverse.dropWhile p).reverse

/-- The characters without white space at either end. -/
def trimChars (chars : List Char) : List Char :=
  dropEnd isBlank (chars.dropWhile isBlank)

/-- The text without white space at either end. -/
def trimBlank (text : String) : String :=
  String.ofList (trimChars text.toList)

end WorkloadIdentity
