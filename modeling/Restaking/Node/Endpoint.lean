import Restaking.Text.Blank
import Restaking.Text.HostName
import Restaking.Text.Url
import Restaking.Decimal.Binary
import Restaking.Failure

/-!
# Endpoints

The way to a node that settings name: a URL and a time limit on requests. Before a request is sent the
URL is taken apart, and what is wrong with it or with the limit is reported first. No node can be reached
from here, so nothing better comes of an endpoint that is in order.
-/
namespace Restaking.Remote.Endpoint

open Restaking.Text

/-! ## Schemes -/

/-- Whether a scheme may have a character after its first one. -/
def isSchemeChar (c : Char) : Bool := c.isAlphanum || c == '+' || c == '-'

/-- A scheme and what follows its colon. -/
def readScheme? (cs : List Char) : Option (List Char × List Char) :=
  match cs.takeWhile isSchemeChar, cs.dropWhile isSchemeChar with
  | c :: more, ':' :: rest =>
    if c.isAlpha then some ((c :: more).map Char.toLower, rest) else none
  | _, _ => none

/-- The schemes of the protocol that nodes speak. -/
def schemes : List String := ["http", "https"]

/-! ## Hosts -/

/-- Whether a character ends the part of a URL that names a host. -/
def endsAuthority (c : Char) : Bool := c == '/' || c == '\x5c' || c == '?' || c == '#'

/-- The part of a URL that names a host, at its start, perhaps with a user in front. -/
def authorityOf (cs : List Char) : List Char := cs.takeWhile fun c => !endsAuthority c

/-- Whether what follows a host is nothing, or the number of a service on it, of sixteen bits. The number may
be left out after its colon and may have zeros in front; a line may end after it. -/
def isService (cs : List Char) : Bool :=
  match if cs.getLast? == some '\n' then cs.dropLast else cs with
  | [] => true
  | ':' :: number =>
    let digits := number.dropWhile (· == '0')
    digits.all Char.isDigit && digits.length ≤ 5
      && digits.foldl (fun n c => 10 * n + (c.toNat - 48)) 0 ≤ 65535
  | _ => false

def isHexDigit (c : Char) : Bool := (Hex.digit? c).isSome

/-- Whether a character may stand in a host that is not between brackets. -/
def isHostChar (c : Char) : Bool := !(['[', ']', '%', ':', '/', '?', '#'].contains c)

/-- Whether a character is white space or a control, which no host may have. -/
def isControl (c : Char) : Bool := c.toNat ≤ 0x20 || c.toNat == 0x7F

/-- A host that is not between brackets, which may have escapes of two digits, and what follows. -/
def splitHost : List Char → List Char × List Char
  | [] => ([], [])
  | c :: rest =>
    if isHostChar c then
      let (host, more) := splitHost rest
      (c :: host, more)
    else
      match c, rest with
      | '%', a :: b :: rest' =>
        if isHexDigit a && isHexDigit b then
          let (host, more) := splitHost rest'
          ('%' :: a :: b :: host, more)
        else ([], c :: rest)
      | _, _ => ([], c :: rest)

/-- Whether a text may name a zone: letters, digits, a few signs, and escapes of two digits. -/
def isZone : List Char → Bool
  | [] => true
  | '%' :: a :: b :: rest => isHexDigit a && isHexDigit b && isZone rest
  | c :: rest => (c.isAlphanum || c == '.' || c == '_' || c == '-' || c == '~') && isZone rest

/-- Whether a text between brackets is an address in groups, perhaps with a zone. Its decimal numbers may
be too great here. -/
def isBracketed (cs : List Char) : Bool :=
  IpAddress.isLong (IpAddress.isQuad IpAddress.isShortNumber) (cs.takeWhile (· != '%'))
    && match cs.dropWhile (· != '%') with
      | [] => true
      | _ :: zone => !zone.isEmpty && isZone zone

/-- The host of a text that is a host, perhaps an empty one, perhaps with the number of a service. -/
def readHost? (cs : List Char) : Option (List Char) :=
  match cs with
  | '[' :: rest =>
    let inside := rest.takeWhile (· != ']')
    match rest.dropWhile (· != ']') with
    | _ :: service =>
      if isBracketed inside && isService service then some ('[' :: inside ++ [']']) else none
    | [] => none
  | _ =>
    let (host, service) := splitHost cs
    if isService service && !host.any isControl then some host else none

/-- Whether a host is known without asking anyone: this machine, or an address in digits. -/
def isKnown (host : List Char) : Bool :=
  host.map Char.toLower == "localhost".toList || host.head? == some '['
    || ((labels host).length ≤ 4
      && (labels host).all fun l => !l.isEmpty && l.length ≤ 10 && l.all Char.isDigit)

/-! ## Faults -/

/-- What is wrong with a URL that has no scheme. Its host is read first. -/
def schemelessFault (cs : List Char) : NodeError :=
  let start := match cs with
    | '/' :: '/' :: rest => rest
    | '/' :: _ => []
    | cs => cs
  match readHost? (Url.afterLastAt (authorityOf start)) with
  | some host => if HostName.foreignLabelsFit host then .noScheme else .invalidUrl
  | none => .invalidUrl

/-- What is wrong with an authority under a scheme that nodes do not speak, whose host was read. -/
def foreignFault (authority host : List Char) : NodeError :=
  if !host.all isAscii && !HostName.isInternational host then .invalidUrl
  else if !Url.bracketsFit authority then .malformedUrl
  else if !Url.credentialsFit authority then .unsentCredentials
  else .unknownScheme

/-- What is wrong with a URL that is not one of the web. It is not looked at closely. -/
def otherFault (cs : List Char) : NodeError :=
  match Url.ofText? cs with
  | none => .malformedUrl
  | some u => if Url.credentialsFit u.authority then .unknownScheme else .unsentCredentials

/-- Whether the user and the password in front of a host can be sent. Where a percent sign starts no escape,
none does. -/
def credentialsFit (authority : List Char) : Bool :=
  match Url.credentials? authority with
  | some cs => if Url.escapesFit cs then Url.isLatin (Url.unescaped cs) else cs.all fun c => c.toNat ≤ 0xFF
  | none => true

/-- Whether an address between brackets has numbers that are not too great. -/
def isStrict (host : List Char) : Bool :=
  host.head? != some '['
    || IpAddress.isLong (IpAddress.isQuad IpAddress.isOctet) ((Url.bracketed host).takeWhile (· != '%'))

/-- The host that a URL leads to, or what is wrong with the URL. -/
def hostOf (url : String) : Except NodeError (List Char) :=
  let cs := url.toList.dropWhile isBlank
  let web := "http".toList.isPrefixOf (cs.map Char.toLower)
  if cs.contains ':' && !web then
    .error (otherFault cs)
  else
    match readScheme? cs with
    | none => .error (schemelessFault cs)
    | some (scheme, '/' :: '/' :: rest) =>
      match readHost? (Url.afterLastAt (authorityOf rest)) with
      | none | some [] | some ('*' :: _) | some ('.' :: _) => .error .invalidUrl
      | some host =>
        if !schemes.contains (String.ofList scheme) then .error (foreignFault (authorityOf rest) host)
        else if !HostName.foreignLabelsFit host then .error .invalidUrl
        else if !isStrict host then .error .malformedUrl
        else if !credentialsFit (authorityOf rest) then .error .unsentCredentials
        else .ok host
    | some _ => .error .invalidUrl

/-- The greatest time limit that a connection takes: as many milliseconds as an `Int32` holds. -/
def greatestLimit : Float := 2147483.647

/-- Why a request to a host fails. -/
def hostFault (host : List Char) (timeLimit : Float) : NodeError :=
  if timeLimit ≤ 0.0 then .invalidTimeLimit
  else if !HostName.labelsFit host then .badHostName
  else if isKnown host && timeLimit.isNaN then .invalidTimeLimit
  else if isKnown host && greatestLimit < timeLimit then .longTimeLimit
  else .unreachable

/-- Why a request to an endpoint fails. -/
def fault (url : String) (timeLimit : Float) : NodeError :=
  match hostOf url with
  | .error e => e
  | .ok host => hostFault host timeLimit

end Restaking.Remote.Endpoint
