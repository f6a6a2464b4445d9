import WorkloadIdentity.Url.Host

/-!
# Addresses

Absolute web addresses as browsers read them: forgiving about slashes and blanks around the text,
strict about hosts and ports.  Of the path only its end matters here, so it is not kept.
-/

namespace WorkloadIdentity

/-- The parts of an address that are looked at. -/
structure Url where
  scheme : String
  host : Option Url.Host
  query : Option String
  fragment : Option String
  deriving DecidableEq, Repr

namespace Url

/-- The kinds of scheme: local files, the web's own schemes, and all others. -/
inductive SchemeKind
  | file
  | web
  | other
  deriving DecidableEq, Repr

/-- The kind of a scheme in lower case. -/
def schemeKind (scheme : String) : SchemeKind :=
  if scheme = "file" then .file
  else if ["http", "https", "ws", "wss", "ftp"].contains scheme then .web
  else .other

/-- The character is a slash of either kind. -/
def isSlash (c : Char) : Bool :=
  c == '/' || c == '\\'

/-- The characters that a scheme consists of after its first letter. -/
def isSchemeChar (c : Char) : Bool :=
  c.isAlphanum || c == '+' || c == '-' || c == '.'

/-- The scheme before the first colon, in lower case, and what follows the colon. -/
def scheme? (chars : List Char) : Option (String × List Char) :=
  match chars with
  | c :: _ =>
      if c.isAlpha then
        match chars.dropWhile isSchemeChar with
        | ':' :: rest => some (String.ofList ((chars.takeWhile isSchemeChar).map Char.toLower), rest)
        | _ => none
      else none
  | [] => none

def queryAndFragment (chars : List Char) : Option String × Option String :=
  let main := chars.takeWhile (· ≠ '#')
  let fragment := (chars.dropWhile (· ≠ '#')).tail?
  let query := (main.dropWhile (· ≠ '?')).tail?
  (query.map String.ofList, fragment.map String.ofList)

/-- A port may be read behind a host: digits up to 65535, or none, with nothing behind them. -/
def isPort (chars : List Char) : Bool :=
  let rest := chars.dropWhile Char.isDigit
  let value := spell 10 ((chars.takeWhile Char.isDigit).filterMap (digit? 10))
  (rest.isEmpty || rest.head? == some '\\') && value < 65536

/-- The number of characters before the colon that ends a host; colons in brackets do not. -/
def hostLength : (inside : Bool) → List Char → Nat
  | _, [] => 0
  | inside, c :: rest =>
      if c = ':' ∧ !inside then 0
      else hostLength (if c = '[' then true else if c = ']' then false else inside) rest + 1

/-- The host of an authority without its user, before the port.  A web address needs a host, and
so does a port. -/
def hostBeforePort? (kind : SchemeKind) (chars : List Char) : Option (Option Host) :=
  let name := chars.take (hostLength false chars)
  let rest := chars.drop (hostLength false chars)
  if name = [] then
    if kind = .web ∨ rest ≠ [] then none else some none
  else if isPort (rest.drop 1) then
    (if kind = .web then webHost? name else plainHost? name).map some
  else none

/-- The address that begins with an authority. -/
def withAuthority? (scheme : String) (kind : SchemeKind) (chars : List Char) : Option Url := do
  let inAuthority := fun c => !(c == '/' || c == '?' || c == '#' || kind == .web && c == '\\')
  let authority := chars.takeWhile inAuthority
  let rest := chars.dropWhile inAuthority
  let place := (authority.reverse.takeWhile (· ≠ '@')).reverse
  let user := authority.take (authority.length - place.length - 1)
  if place.length < authority.length ∧ user = [] ∧ place = [] ∧ rest ≠ [] then none
  else
    let host ← hostBeforePort? kind place
    if host = none ∧ user ≠ [] ∧ user ≠ [':'] then none
    else
      let (query, fragment) := queryAndFragment rest
      some ⟨scheme, host, query, fragment⟩

/-- The text is the letter of a drive. -/
def isDrive : List Char → Bool
  | [letter, mark] => letter.isAlpha && (mark == ':' || mark == '|')
  | _ => false

/-- The address of a local file, which may name a host after two slashes. -/
def fileUrl? (chars : List Char) : Option Url := do
  let (query, fragment) := queryAndFragment chars
  match chars with
  | a :: b :: rest =>
      if isSlash a && isSlash b then
        let name := rest.takeWhile fun c => !(isSlash c || c == '?' || c == '#')
        let host ← if name = [] || isDrive name then some none else (webHost? name).map some
        some ⟨"file", host, query, fragment⟩
      else some ⟨"file", none, query, fragment⟩
  | _ => some ⟨"file", none, query, fragment⟩

/-- The characters of an address without control characters and blanks at its ends, and without
tabs and line ends anywhere. -/
def significant (text : String) : List Char :=
  let edge := fun (c : Char) => decide (c.toNat ≤ 0x20)
  let trimmed := ((text.toList.dropWhile edge).reverse.dropWhile edge).reverse
  trimmed.filter fun c => !(c == '\t' || c == '\n' || c == '\r')

def parse? (text : String) : Option Url := do
  let (scheme, rest) ← scheme? (significant text)
  match schemeKind scheme with
  | .file => fileUrl? rest
  | .web => withAuthority? scheme .web (rest.dropWhile isSlash)
  | .other =>
      match rest with
      | '/' :: '/' :: rest => withAuthority? scheme .other rest
      | _ =>
          let (query, fragment) := queryAndFragment rest
          some ⟨scheme, none, query, fragment⟩

end Url
end WorkloadIdentity
