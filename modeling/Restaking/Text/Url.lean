import Restaking.Text.IpAddress

/-!
# URLs

Of a URL only its scheme and its authority matter here: the part between two slashes and the path, with
perhaps a user, a host, and perhaps the number of a service on it. White space and control characters in
front are dropped, and so are tabs and line ends anywhere. An authority must have its brackets in pairs,
around an address in groups, and no character that becomes a delimiter when its form is made plain.
-/
namespace Restaking.Text

structure Url where
  /-- The scheme in lower case; empty where there is none. -/
  scheme : List Char
  authority : List Char
  deriving DecidableEq, Repr

namespace Url

/-- What remains of a text that is read as a URL. -/
def cleaned (cs : List Char) : List Char :=
  (cs.dropWhile fun c => c.toNat ≤ 0x20).filter fun c => c != '\t' && c != '\r' && c != '\n'

/-- Whether a scheme may have a character. -/
def isSchemeChar (c : Char) : Bool := c.isAlphanum || c == '+' || c == '-' || c == '.'

/-- The scheme of a text, empty if it has none, and what follows. -/
def splitScheme (cs : List Char) : List Char × List Char :=
  let start := cs.takeWhile (· != ':')
  match start, cs.drop start.length with
  | c :: _, _ :: rest =>
    if c.isAlpha && start.all isSchemeChar then (start.map Char.toLower, rest) else ([], cs)
  | _, _ => ([], cs)

/-- The authority at the start of a text, empty if there is none. -/
def authorityOf : List Char → List Char
  | '/' :: '/' :: rest => rest.takeWhile fun c => c != '/' && c != '?' && c != '#'
  | _ => []

/-- What stands between the first opening bracket and the closing one after it. -/
def bracketed (cs : List Char) : List Char :=
  ((cs.dropWhile (· != '[')).drop 1).takeWhile (· != ']')

/-- An address of a version to come: its number after a letter, a dot, and something more. -/
def isFutureAddress (cs : List Char) : Bool :=
  let isHexDigit := fun c => (Hex.digit? c).isSome
  match cs.takeWhile isHexDigit, cs.dropWhile isHexDigit with
  | _ :: _, '.' :: _ :: _ => true
  | _, _ => false

/-- Whether brackets come in pairs and hold an address that is no short one. -/
def bracketsFit (authority : List Char) : Bool :=
  if authority.contains '[' && authority.contains ']' then
    match bracketed authority with
    | 'v' :: rest => isFutureAddress rest
    | inside => IpAddress.isScoped inside
  else !authority.contains '[' && !authority.contains ']'

/-- The characters whose compatibility form has a delimiter in it. -/
def hiddenDelimiters : List Nat :=
  [
    0x2047, 0x2048, 0x2049, 0x2100, 0x2101, 0x2105, 0x2106, 0x2A74, 0xFE13, 0xFE16, 0xFE55, 0xFE56,
    0xFE5F, 0xFE6B, 0xFF03, 0xFF0F, 0xFF1A, 0xFF1F, 0xFF20]

/-- Reads a text as a URL; nothing is missed but an authority that is in order. -/
def ofText? (cs : List Char) : Option Url :=
  let (scheme, rest) := splitScheme (cleaned cs)
  let authority := authorityOf rest
  if bracketsFit authority && !authority.any fun c => hiddenDelimiters.contains c.toNat then
    some ⟨scheme, authority⟩
  else none

/-- What follows the last at sign, or all if there is none. -/
def afterLastAt (cs : List Char) : List Char := (cs.reverse.takeWhile (· != '@')).reverse

/-- The user and the password with a colon between them, if an authority starts with both. -/
def credentials? (authority : List Char) : Option (List Char) :=
  let before := authority.take (authority.length - (afterLastAt authority).length)
  if before.contains ':' then some before.dropLast else none

/-- The bytes of a text in which escapes stand for bytes. -/
def unescaped : List Char → List UInt8
  | [] => []
  | '%' :: a :: b :: rest =>
    match Hex.digit? a, Hex.digit? b with
    | some high, some low => UInt8.ofNat (16 * high + low) :: unescaped rest
    | _, _ => 0x25 :: unescaped (a :: b :: rest)
  | c :: rest => (String.singleton c).toUTF8.toList ++ unescaped rest

/-- Whether each percent sign of a text starts an escape. -/
def escapesFit : List Char → Bool
  | [] => true
  | '%' :: a :: b :: rest => (Hex.digit? a).isSome && (Hex.digit? b).isSome && escapesFit rest
  | '%' :: _ => false
  | _ :: rest => escapesFit rest

/-- Whether bytes are text of the first 256 characters alone. -/
def isLatin (bytes : List UInt8) : Bool :=
  match String.fromUTF8? ⟨bytes.toArray⟩ with
  | some s => s.toList.all fun c => c.toNat ≤ 0xFF
  | none => false

/-- Whether the user and the password of an authority, if it has both, can be sent: they must be Latin. -/
def credentialsFit (authority : List Char) : Bool :=
  match credentials? authority with
  | some cs => isLatin (unescaped cs)
  | none => true

/-- The host, without brackets; empty where there is none. -/
def host (u : Url) : List Char :=
  let place := afterLastAt u.authority
  if place.contains '[' then bracketed place else place.takeWhile (· != ':')

end Url

end Restaking.Text
