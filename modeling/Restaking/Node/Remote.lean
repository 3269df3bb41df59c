import Restaking.Node.Script
import Restaking.Node.ErrorAnswer
import Restaking.Node.Endpoint
import Restaking.Abi.Argument
import Restaking.Abi.Decoding

/-!
# A node behind a wire

Calls are encoded under the declared types, sent to the handle's address, and what comes back is decoded
or classified as an error. The far end is scripted by address and selector, or by selector alone.
-/
namespace Restaking.Remote

open Abi Text

/-- The far end, by address and selector, and its refusals of handles. -/
structure Chain where
  answers : Scripts
  refusals : Scripts

/-- A block as it is named on the wire: by a text, or by a truth value as it is given. -/
inductive BlockName where
  | text (s : String)
  | flag (b : Bool)
  deriving DecidableEq, Repr

/-- What goes over the wire. -/
structure Call where
  target : String
  data : List UInt8
  block : BlockName

/-- The tags that name a block. -/
def tags : List String := ["latest", "earliest", "pending", "safe", "finalized"]

/-- Bytes as hexadecimal text with its mark. -/
def hexText (bs : List UInt8) : String := String.ofList ('0' :: 'x' :: Hex.encode bs)

/-- How a block is named: by a tag, by a number that is not negative, or by a truth value, which counts
as a number. -/
def blockName : Option Value → Except NodeError BlockName
  | none | some .null => .ok (.text "latest")
  | some (.text tag) => if tags.contains tag then .ok (.text tag) else .error .noSuchBlock
  | some (.int n) =>
    if n < 0 then .error .noSuchBlock
    else .ok (.text (String.ofList ('0' :: 'x' :: Hex.ofNat n.toNat)))
  | some (.bool b) => .ok (.flag b)
  | some (.buffer _) => .error .mutableBlock
  | some _ => .error .noSuchBlock

/-- The canonical text of an address, where it is one. -/
def canonical (address : String) : String := ((Address.ofText? address.toList).map (·.text)).getD address

/-- The bytes of a result. A number stands for the bytes of its hexadecimal digits. -/
def resultBytes : Value → Except NodeError (List UInt8)
  | .text s => hexBytes s
  | .bytes bs | .buffer bs => .ok bs
  | .bool b => .ok [if b then 1 else 0]
  | .int n =>
    if n < 0 then .error .negativeResult
    else (Hex.decode? (Hex.evened (Hex.ofNat n.toNat))).elim (.error .notHex) .ok
  | _ => .error .notBytes

/-- The value in a result of a call of `f`. -/
def resultValue (f : Function) (result : Value) : Except NodeError Value := do
  match f.returned? (← resultBytes result) with
  | some v => .ok v
  | none => .error .undecodable

/-- The value in an answer to a call of `f` at an address. -/
def interpret (target : Option Address) (f : Function) : Value → Except NodeError Value
  | .mapping entries =>
    match entries.lookup "error", entries.lookup "result" with
    | some (.mapping error), none => .error (ErrorAnswer.ofEntries target error)
    | none, some result => resultValue f result
    | _, _ => .error .malformedAnswer
  | _ => .error .notBytes

/-- The key of a script: an address in lower case or a star, and the selector of a call's data. -/
def scriptKey (target : String) (data : List UInt8) : String :=
  target ++ "/" ++ hexText (data.take 4)

/-- The reply of the far end, and what is left of its scripts. -/
def reply (chain : Chain) (call : Call) : Reply Value × Chain :=
  let own := scriptKey (String.ofList (call.target.toList.map Char.toLower)) call.data
  let shared := scriptKey "*" call.data
  match chain.answers.play? own, chain.answers.play? shared with
  | some (r, answers), _ | none, some (r, answers) => (r, { chain with answers })
  | none, none => (⟨[], .ok (.mapping [("result", .text "0x")])⟩, chain)

/-- A handle offers the functions of its interface. -/
def offered (h : Handle) (f : Function) : Except Failure Unit :=
  if h.interface.functions.any fun g => g.name == f.name then .ok () else .error (.noFunction f.name)

/-- A function takes the arguments that its declared inputs accept. -/
def accepted (f : Function) (arguments : List Argument) : Except Failure Unit :=
  match f.accept anyName (arguments.map Argument.toValue) with
  | .ok _ => .ok ()
  | .error e => .error (.node e)

/-- What goes over the wire for a request, if it can be put so. -/
def wire (request : Request) : Except NodeError Call := do
  let block ← blockName request.block
  let data ← request.function.encode (request.arguments.map Argument.toValue)
  return ⟨canonical request.target.address, data, block⟩

/-- A handle at an address that a caller gives. The address must be in its canonical form; a name is not
looked up, and nothing stands for no address. -/
def handleAt (address : String) (interface : Interface) : Except NodeError Handle :=
  let cs := address.toList
  if cs.isEmpty || (Address.ofText? cs).map (·.text) == some address then .ok ⟨address, interface⟩
  else if (Address.ofText? cs).isSome then .error .uncheckedAddress
  else if DomainName.Reading.ofText cs != .notName || DomainName.Reading.ofQualified cs == .worded then
    .error .unresolvedName
  else .error .uncheckedAddress

/-- The node of such a chain. -/
def node : Node Call Chain where
  connect address _ chain :=
    let (reply, refusals) := chain.refusals.connect address
    (reply, { chain with refusals })
  offers h f _ := offered h f
  accepts := accepted
  prepare request := (wire request).mapError .node
  answer request call chain :=
    let (r, chain) := reply chain call
    let target := Address.ofText? call.target.toList
    (⟨r.effects, r.outcome.bind fun v => (interpret target request.function v).mapError .node⟩, chain)

/-- A node behind an endpoint where nothing was scripted: handles are had, and calls do not get
through. -/
def unreachable (url : String) (timeLimit : Float) : Node Unit Unit where
  connect _ _ s := (⟨[], .ok ()⟩, s)
  offers h f _ := offered h f
  accepts := accepted
  prepare request := ((wire request).map fun _ => ()).mapError .node
  answer _ _ s := (⟨[], .error (.node (Endpoint.fault url timeLimit))⟩, s)

end Restaking.Remote
