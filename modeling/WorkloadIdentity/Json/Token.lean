import WorkloadIdentity.Json.Numeral
import WorkloadIdentity.Text.Hex

/-!
# JSON tokens

The punctuation, words, numbers and string literals that a JSON text is made of.  Between them
stand blanks, tabs and line ends only.
-/

namespace WorkloadIdentity
namespace Json

inductive Token
  | openArray
  | closeArray
  | openObject
  | closeObject
  | comma
  | colon
  | null
  | bool (value : Bool)
  | number (numeral : Numeral)
  | text (literal : Literal)
  deriving DecidableEq, Repr

def isHighSurrogate (code : Nat) : Bool :=
  0xD800 ≤ code && code ≤ 0xDBFF

def isLowSurrogate (code : Nat) : Bool :=
  0xDC00 ≤ code && code ≤ 0xDFFF

/-- The characters that code units spell, unless a surrogate stands alone. -/
def ofUnits? : List Nat → Option (List Char)
  | [] => some []
  | code :: rest =>
      if isHighSurrogate code then
        match rest with
        | low :: rest =>
            if isLowSurrogate low then
              (ofUnits? rest).map
                (Char.ofNat (0x10000 + (code - 0xD800) * 0x400 + (low - 0xDC00)) :: ·)
            else none
        | [] => none
      else if isLowSurrogate code then none
      else (ofUnits? rest).map (Char.ofNat code :: ·)

/-- The code unit of a short escape. -/
def escape? : Char → Option Nat
  | '"' => some 0x22
  | '\\' => some 0x5C
  | '/' => some 0x2F
  | 'b' => some 0x08
  | 'f' => some 0x0C
  | 'n' => some 0x0A
  | 'r' => some 0x0D
  | 't' => some 0x09
  | _ => none

/-- The code unit of four hexadecimal digits. -/
def unit? (a b c d : Char) : Option Nat := do
  let a ← Hex.value? a
  let b ← Hex.value? b
  let c ← Hex.value? c
  let d ← Hex.value? d
  return a * 4096 + b * 256 + c * 16 + d

/-- The code units up to the closing quotation mark, after those already read, and the characters
after it. -/
def literalBody? (done : List Nat) : List Char → Option (List Nat × List Char)
  | [] => none
  | '"' :: rest => some (done.reverse, rest)
  | '\\' :: 'u' :: a :: b :: c :: d :: rest =>
      match unit? a b c d with
      | none => none
      | some code => literalBody? (code :: done) rest
  | '\\' :: c :: rest =>
      match escape? c with
      | none => none
      | some code => literalBody? (code :: done) rest
  | c :: rest =>
      if c.toNat < 0x20 ∨ c = '\\' then none else literalBody? (c.toNat :: done) rest

theorem length_le_of_literalBody?
    {done units : List Nat} {chars rest : List Char}
    (h : literalBody? done chars = some (units, rest)) :
    rest.length ≤ chars.length := by
  fun_induction literalBody? done chars <;> simp_all <;> omega

/-- How a character is written inside a literal. -/
def escaped (c : Char) : List Char :=
  if c = '"' then ['\\', '"']
  else if c = '\\' then ['\\', '\\']
  else if 0x20 ≤ c.toNat then [c]
  else if c.toNat = 0x08 then ['\\', 'b']
  else if c.toNat = 0x09 then ['\\', 't']
  else if c.toNat = 0x0A then ['\\', 'n']
  else if c.toNat = 0x0C then ['\\', 'f']
  else if c.toNat = 0x0D then ['\\', 'r']
  else ['\\', 'u', '0', '0', Hex.digit (c.toNat / 16), Hex.digit (c.toNat % 16)]

/-- A literal with its quotation marks; one without text is written as a lone surrogate. -/
def literalChars : Literal → List Char
  | some string => '"' :: (string.toList.flatMap escaped ++ ['"'])
  | none => ['"', '\\', 'u', 'd', '8', '0', '0', '"']

/-- The characters between tokens. -/
def isSpace (c : Char) : Bool :=
  c == ' ' || c == '\t' || c == '\n' || c == '\r'

/-- The letters that words are made of. -/
def isLetter (c : Char) : Bool :=
  'a' ≤ c && c ≤ 'z'

/-- The token of a punctuation character. -/
def punctuation? : Char → Option Token
  | '[' => some .openArray
  | ']' => some .closeArray
  | '\x7b' => some .openObject
  | '\x7d' => some .closeObject
  | ',' => some .comma
  | ':' => some .colon
  | _ => none

def wordToken? (letters : List Char) : Option Token :=
  if letters = ['n', 'u', 'l', 'l'] then some .null
  else if letters = ['t', 'r', 'u', 'e'] then some (.bool true)
  else if letters = ['f', 'a', 'l', 's', 'e'] then some (.bool false)
  else none

/-- The tokens of a text, after those already read. -/
def tokensFrom? (done : List Token) (chars : List Char) : Option (List Token) :=
  match chars with
  | [] => some done.reverse
  | c :: rest =>
      if isSpace c then tokensFrom? done rest
      else if c = '"' then
        match _h : literalBody? [] rest with
        | none => none
        | some (units, after) =>
            tokensFrom? (.text ((ofUnits? units).map String.ofList) :: done) after
      else
        match punctuation? c with
        | some token => tokensFrom? (token :: done) rest
        | none =>
            if isLetter c then
              match wordToken? (c :: rest.takeWhile isLetter) with
              | none => none
              | some token => tokensFrom? (token :: done) (rest.dropWhile isLetter)
            else
              match Numeral.ofChars? (c :: rest.takeWhile Numeral.isChar) with
              | none => none
              | some numeral =>
                  tokensFrom? (.number numeral :: done) (rest.dropWhile Numeral.isChar)
termination_by chars.length
decreasing_by
  · simp
  · have := length_le_of_literalBody? _h
    simp only [List.length_cons]
    omega
  · simp
  · have := (List.dropWhile_sublist isLetter (l := rest)).length_le
    simp only [List.length_cons]
    omega
  · have := (List.dropWhile_sublist Numeral.isChar (l := rest)).length_le
    simp only [List.length_cons]
    omega

def tokens? (chars : List Char) : Option (List Token) :=
  tokensFrom? [] chars

def Token.chars : Token → List Char
  | openArray => ['[']
  | closeArray => [']']
  | openObject => ['\x7b']
  | closeObject => ['\x7d']
  | comma => [',']
  | colon => [':']
  | null => ['n', 'u', 'l', 'l']
  | bool true => ['t', 'r', 'u', 'e']
  | bool false => ['f', 'a', 'l', 's', 'e']
  | number numeral => numeral.toChars
  | text literal => literalChars literal

/-- The tokens side by side, without blanks. -/
def compactChars (tokens : List Token) : List Char :=
  tokens.flatMap Token.chars

/-- The end of a line and the indentation of the next. -/
def lineEnd (depth : Nat) : List Char :=
  '\n' :: List.replicate (2 * depth) ' '

/-- The tokens with each item and member on a line of its own; empty containers stay on one
line. -/
def prettyChars (depth : Nat) : List Token → List Char
  | [] => []
  | .openArray :: .closeArray :: rest => '[' :: ']' :: prettyChars depth rest
  | .openObject :: .closeObject :: rest => '\x7b' :: '\x7d' :: prettyChars depth rest
  | .openArray :: rest => '[' :: (lineEnd (depth + 1) ++ prettyChars (depth + 1) rest)
  | .openObject :: rest => '\x7b' :: (lineEnd (depth + 1) ++ prettyChars (depth + 1) rest)
  | .closeArray :: rest => lineEnd (depth - 1) ++ ']' :: prettyChars (depth - 1) rest
  | .closeObject :: rest => lineEnd (depth - 1) ++ '\x7d' :: prettyChars (depth - 1) rest
  | .comma :: rest => ',' :: (lineEnd depth ++ prettyChars depth rest)
  | .colon :: rest => ':' :: ' ' :: prettyChars depth rest
  | token :: rest => token.chars ++ prettyChars depth rest

end Json
end WorkloadIdentity
