import Restaking.Abi.Decoding
import Restaking.Failure
import Restaking.Text.HostName
import Restaking.Text.Url

/-!
# Lookups through gateways

A contract may answer that the caller should ask a gateway first. The answer describes the lookup: the
contract that asks for it, the gateways, the data for them, the function to call back, and data for that
function. Its description is read front to back, offsets before what they lead to, and the first thing
that is wrong with it is the fault. Then its gateways are tried in order, those of the secure scheme that
name a host. None can be reached from here, and the first URL that cannot be tried is the fault.
-/
namespace Restaking.Remote.GatewayLookup

open Restaking.Abi
open Restaking.Text

abbrev Reader := Except LookupFault

/-- The thirty-two bytes at a position. -/
def slotAt (data : List UInt8) (position : Nat) : Reader (List UInt8) :=
  match take32? (data.drop position) with
  | some slot => .ok slot
  | none => .error .incomplete

def natAt (data : List UInt8) (position : Nat) : Reader Nat :=
  (slotAt data position).map natOfBytes

/-- Refuses bytes that are not all zero. -/
def zeros (bs : List UInt8) : Reader Unit :=
  if bs.all (· == 0) then .ok () else .error .dirtyPadding

/-- Where the offset at a position leads. It must leave the head, which ends at `headEnd`, and stay
inside the data. -/
def targetAt (data : List UInt8) (base headEnd position : Nat) : Reader Nat := do
  let target := base + (← natAt data position)
  if target < headEnd ∨ data.length ≤ target then .error .badOffset else .ok target

/-- The least size of a byte string that its reader refuses to ask for. -/
def sizeLimit : Nat := Nat.pow 2 63

/-- A length, that many bytes, and zeros up to a multiple of thirty-two. -/
def bytesAt (data : List UInt8) (position : Nat) : Reader (List UInt8) := do
  let n ← natAt data position
  let padded := n + (32 - n % 32) % 32
  if sizeLimit ≤ padded then .error .oversized
  else
    let body := (data.drop (position + 32)).take padded
    if body.length < padded then .error .incomplete
    else do
      zeros (body.drop n)
      return body.take n

/-- A text, which must be valid. -/
def textAt (data : List UInt8) (position : Nat) : Reader String := do
  let bs ← bytesAt data position
  match String.fromUTF8? ⟨bs.toArray⟩ with
  | some s => .ok s
  | none => .error .notUtf8

/-- A list of texts. No more offsets are read than can stand in the data. -/
def textsAt (data : List UInt8) (position : Nat) : Reader (List String) := do
  let count ← natAt data position
  let base := position + 32
  let positions := (List.range (min count (data.length + 1))).map fun i => base + 32 * i
  let targets ← positions.mapM (targetAt data base (base + 32 * count))
  targets.mapM (textAt data)

/-- What a contract asks to be looked up. -/
structure Description where
  sender : List UInt8
  gateways : List String
  data : List UInt8
  callback : List UInt8
  context : List UInt8

/-- Where the head of a description ends: it has five slots. -/
def headEnd : Nat := 160

/-- Reads a description. -/
def Description.ofBytes (data : List UInt8) : Reader Description := do
  let sender ← slotAt data 0
  zeros (sender.take 12)
  let gatewaysAt ← targetAt data 0 headEnd 32
  let dataAt ← targetAt data 0 headEnd 64
  let callback ← slotAt data 96
  zeros (callback.drop 4)
  let contextAt ← targetAt data 0 headEnd 128
  let gateways ← textsAt data gatewaysAt
  let callData ← bytesAt data dataAt
  let context ← bytesAt data contextAt
  return ⟨sender.drop 12, gateways, callData, callback.take 4, context⟩

/-- The only scheme of gateways. -/
def scheme : List Char := "https".toList

/-- What stands for the sender in the URL of a gateway. -/
def senderField : List Char := "\x7bsender\x7d".toList

/-- What stands for the data in the URL of a gateway. -/
def dataField : List Char := "\x7bdata\x7d".toList

/-- Replaces a part wherever it occurs, from the start of a text on; `skip` characters were replaced. -/
def replaced (part other : List Char) (skip : Nat) : List Char → List Char
  | [] => []
  | c :: rest =>
    if skip ≠ 0 then replaced part other (skip - 1) rest
    else if part.isPrefixOf (c :: rest) then other ++ replaced part other (part.length - 1) rest
    else c :: replaced part other 0 rest

/-- Bytes as they stand in the URL of a gateway. -/
def markedHex (bs : List UInt8) : List Char := '0' :: 'x' :: Hex.encode bs

/-- The URL of a gateway for a description. -/
def Description.url (d : Description) (gateway : String) : List Char :=
  replaced dataField (markedHex d.data) 0
    (replaced senderField (markedHex d.sender) 0 gateway.toList)

/-- What is wrong with the URL of a gateway, if it makes the lookup fail. -/
def urlFault? (url : List Char) : Option LookupFault :=
  match Url.ofText? url with
  | none => some .malformedUrl
  | some u =>
    if u.scheme == scheme && !HostName.isResolvable u.host then some .badHostName else none

/-- Why a lookup that the contract at an address describes is not made. -/
def fault (target : Option Address) (data : List UInt8) : LookupFault :=
  match Description.ofBytes data with
  | .error e => e
  | .ok d =>
    if target.map (·.bytes) == some d.sender then
      (d.gateways.findSome? fun g => urlFault? (d.url g)).getD .noGateway
    else .foreignSender

end Restaking.Remote.GatewayLookup
