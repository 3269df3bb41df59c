import Restaking.Node.GatewayLookup
import Restaking.Text.DomainName
import Restaking.Text.Blank

/-!
# Error answers

A node that refuses a call says so with a code, a message and perhaps data. The data of a reverted call
tells most: a panic has a code of its own, a contract may describe an error or a lookup, and some nodes
spell the reason out after a word. Where the data says nothing, the code and the message decide.
-/
namespace Restaking.Remote

open Restaking.Text

/-- Whether one text starts with another. -/
def startsWith (start cs : List Char) : Bool := start.isPrefixOf cs

/-- Whether one text occurs in another. -/
def occursIn (part : List Char) : List Char → Bool
  | [] => part.isEmpty
  | c :: rest => startsWith part (c :: rest) || occursIn part rest

/-- The bytes that hexadecimal text spells, with its mark or without; an odd number of digits stands for
one more, a zero in front. -/
def hexBytes (s : String) : Except NodeError (List UInt8) :=
  if s.toList.all isAscii then
    (Hex.decode? (Hex.evened (Hex.dropMark s.toList))).elim (.error .notHex) .ok
  else .error .notAscii

namespace ErrorAnswer

/-- The start of the data of a revert with a reason. -/
def reasonSelector : List Char := "0x08c379a0".toList

def panicSelector : List Char := "0x4e487b71".toList

/-- The start of the data that describes a lookup. -/
def lookupSelector : List Char := "0x556f1830".toList

/-- How many characters a selector has with its mark. -/
def selectorLength : Nat := 10

/-- The last two digits of a panic's data, where they have a meaning. -/
def panicCodes : List String := ["00", "01", "11", "12", "21", "22", "31", "32", "41", "51"]

/-- What some nodes write before the data of a revert. -/
def revertedWord : List Char := "Reverted ".toList

/-- Bytes in pairs of digits, with white space between bytes. -/
def spacedBytes? : List Char → Option (List UInt8)
  | [] => some []
  | c :: rest =>
    if isSpace c && isAscii c then spacedBytes? rest
    else
      match Hex.digit? c, rest with
      | some high, d :: more => do
        let low ← Hex.digit? d
        let bytes ← spacedBytes? more
        return UInt8.ofNat (16 * high + low) :: bytes
      | _, _ => none

/-- The value of a hexadecimal digit, or of a decimal one of any script. -/
def anyDigit? (c : Char) : Option Nat := (Hex.digit? c).or (decimalValue? c)

/-- The number that digits to base sixteen spell, with single underscores between them; after a mark, one
may stand in front. -/
def hexNatural? (cs : List Char) : Option Nat :=
  let digits := match cs with
    | '0' :: 'x' :: '_' :: rest | '0' :: 'X' :: '_' :: rest => rest
    | cs => Hex.dropMark cs
  match leadingDigits? anyDigit? digits with
  | some (ds, []) => some (ds.foldl (fun n d => 16 * n + d) 0)
  | _ => none

/-- The number to base sixteen that a text spells, with an optional sign and white space around it. -/
def hexInteger? (cs : List Char) : Option Int :=
  match trimWhere isSpace cs with
  | '-' :: rest => (hexNatural? rest).map fun n => -(n : Int)
  | '+' :: rest => (hexNatural? rest).map fun n => (n : Int)
  | rest => (hexNatural? rest).map fun n => (n : Int)

/-- What stands from `start` up to `stop`; a stop below zero counts from the end. -/
def between (start : Nat) (stop : Int) (cs : List Char) : List Char :=
  (cs.take (if stop < 0 then stop + cs.length else stop).toNat).drop start

/-- The digits of the reason in data that starts with the word of a revert. -/
def reasonDigits? (data : List Char) : Option (List Char) :=
  let head := revertedWord ++ reasonSelector ++ Hex.padded 64 32
  if startsWith head data then
    let start := head.length + 64
    (hexInteger? ((data.drop head.length).take 64)).map fun n => between start (start + 2 * n) data
  else if startsWith (revertedWord ++ ['0', 'x']) data then
    some (((data.drop revertedWord.length).takeWhile (· != ' ')).drop 2)
  else none

/-- A revert whose reason stands behind a word. A reason that is not valid text is still a reason. -/
def spelledOut (data : List Char) : NodeError :=
  match (reasonDigits? data).bind spacedBytes? with
  | some _ => .logic
  | none => .unreadableReason

/-- A lookup that the contract at `target` asks for. -/
def lookup (target : Option Address) (data : List Char) : NodeError :=
  match hexBytes (String.ofList data) with
  | .ok bytes => .lookup (GatewayLookup.fault target bytes)
  | .error e => e

/-- What the data of an error says, if it says anything. -/
def byData? (target : Option Address) (data : List Char) : Option NodeError :=
  let selector := data.take selectorLength
  if startsWith revertedWord data then some (spelledOut data)
  else if selector == lookupSelector then some (lookup target (data.drop selectorLength))
  else if selector == panicSelector then
    some (if panicCodes.contains (String.ofList (data.drop (data.length - 2))) then .panic
      else .unknownPanic)
  else if selector.length == selectorLength && selector != reasonSelector then some .custom
  else none

/-- The code of an error that the called method does not exist. -/
def methodNotFound : Int := -32601

/-- The code of a revert with a message. -/
def revertCode : Int := 3

/-- What the code and the message say where the call was not reverted. -/
def byCode (code : Int) (message : String) : NodeError :=
  if code == methodNotFound then .methodUnavailable
  else if occursIn "request timed out".toList (message.toList.map Char.toLower) then .timedOut
  else if message == "transaction not found" then .transactionNotFound
  else .rpc

/-- What a code and a message say. -/
def byMessage (code : Int) (message : String) : NodeError :=
  if !message.isEmpty && (code == revertCode || occursIn "execution reverted".toList message.toList)
  then .logic
  else byCode code message

/-- What an error says that has a code and a message. -/
def describe (target : Option Address) (code : Int) (message : String) : Option Value → NodeError
  | some .null => .logic
  | some (.mapping _) => if message.isEmpty then byCode code message else .logic
  | some (.text data) => (byData? target data.toList).getD (byMessage code message)
  | _ => byMessage code message

/-- The error of an answer to a call at an address. -/
def ofEntries (target : Option Address) (entries : List (String × Value)) : NodeError :=
  match entries.lookup "message", entries.lookup "code" with
  | some (.text message), some (.int code) =>
    describe target code message (entries.lookup "data")
  | some (.text message), some (.bool b) =>
    describe target (if b then 1 else 0) message (entries.lookup "data")
  | _, _ => .malformedAnswer

end ErrorAnswer

end Restaking.Remote
