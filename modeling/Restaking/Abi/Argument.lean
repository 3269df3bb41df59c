import Restaking.Abi.Encoding
import Restaking.Failure
import Restaking.Text.DomainName

/-!
# Arguments for declared types

A value given as an argument is first aligned with the declared type: a mapping given for a tuple has its
components put in order, and members of a sequence beyond the declared ones are dropped. Then it is
accepted if it fits the type exactly. Numbers are never truncated and byte strings never padded. An
address may be given by a name, but no name service is at hand: a name with words fails at once, and one
without words when the argument goes out. There, every address that is given as text must be in its
canonical form, and every name must have more than one label.
-/
namespace Restaking.Abi

open Restaking.Text

/-- What an alignment makes of the members of a list given for a tuple or for an array of tuples. -/
inductive Shape where
  | leaf
  | sequence (element : Shape)
  | record (members : List (String × Shape))

namespace AbiType

mutual

/-- Where tuples stand in a type; alignment changes nothing else. -/
def shape : AbiType → Shape
  | array element =>
    match element.shape with
    | .leaf => .leaf
    | s => .sequence s
  | tuple _ components => .record (shapes components)
  | _ => .leaf

def shapes : List (String × AbiType) → List (String × Shape)
  | [] => []
  | (name, t) :: rest => (name, t.shape) :: shapes rest

end

end AbiType

namespace Shape

mutual

/-- Aligns a value with the tuples of a type. -/
def align : Shape → Value → Except NodeError Value
  | leaf, v => .ok v
  | sequence element, .list xs => (xs.mapM (align element)).map .list
  | sequence element, .tuple xs => (xs.mapM (align element)).map .tuple
  | sequence _, .mapping _ => .error .missingComponent
  | record members, .list xs => (alignMembers members xs).map .list
  | record members, .tuple xs => (alignMembers members xs).map .tuple
  | record members, .mapping entries =>
    if members.all fun m => (entries.lookup m.1).isSome then
      (alignNamed members entries).map .tuple
    else .error .missingComponent
  | _, _ => .error .mismatchedArguments

/-- Aligns members by position, as far as both lists go. -/
def alignMembers : List (String × Shape) → List Value → Except NodeError (List Value)
  | (_, s) :: rest, x :: xs => do
    let y ← s.align x
    let ys ← alignMembers rest xs
    return y :: ys
  | _, _ => .ok []

/-- Aligns members by name. -/
def alignNamed : List (String × Shape) → List (String × Value) → Except NodeError (List Value)
  | (name, s) :: rest, entries =>
    match entries.lookup name with
    | some x => do
      let y ← s.align x
      let ys ← alignNamed rest entries
      return y :: ys
    | none => .error .missingComponent
  | [], _ => .ok []

end

end Shape

/-- A byte string given as such or as hexadecimal text, which must have its mark. -/
def givenBytes : Value → Except NodeError (List UInt8)
  | .bytes bs | .buffer bs => .ok bs
  | .text s =>
    if s.toList.all isAscii then
      match s.toList with
      | '0' :: 'x' :: rest => (Hex.decode? rest).elim (.error .mismatchedArguments) .ok
      | _ => .error .mismatchedArguments
    else .error .notAscii
  | _ => .error .mismatchedArguments

/-- An address given as such or by its name; `lookUp` gives the address of a name without words. -/
def givenAddress (lookUp : String → Except NodeError Address) (v : Value) :
    Except NodeError Address :=
  match Address.ofValue? v, v with
  | some a, _ => .ok a
  | none, .text s =>
    match DomainName.Reading.ofText s.toList with
    | .notName => .error .mismatchedArguments
    | .worded => .error .unresolvedName
    | .wordless => lookUp s
  | none, _ => .error .mismatchedArguments

namespace AbiType

mutual

/-- The typed form of a value that fits the type; `lookUp` gives the address of a name without words. -/
def accept (lookUp : String → Except NodeError Address) : AbiType → Value → Except NodeError AbiValue
  | uint bits, .int n =>
    if 0 ≤ n ∧ n < Nat.pow 2 bits then .ok (.number n.toNat) else .error .mismatchedArguments
  | address _, v => (givenAddress lookUp v).map .address
  | bool, .bool b => .ok (.flag b)
  | word, v => do
    let bs ← givenBytes v
    if h : bs.length = 32 then .ok (.word ⟨bs, h⟩) else .error .mismatchedArguments
  | bytes, v => (givenBytes v).map .bytes
  | string, .text s => .ok (.text s)
  | array element, .list xs | array element, .tuple xs =>
    (xs.mapM (element.accept lookUp)).map .array
  | tuple _ components, .list xs | tuple _ components, .tuple xs =>
    if xs.length = components.length then (acceptMembers lookUp components xs).map .tuple
    else .error .mismatchedArguments
  | _, _ => .error .mismatchedArguments

/-- The typed forms of values that fit types, one by one. -/
def acceptMembers (lookUp : String → Except NodeError Address) :
    List (String × AbiType) → List Value → Except NodeError (List AbiValue)
  | [], [] => .ok []
  | (_, t) :: rest, x :: xs => do
    let y ← t.accept lookUp x
    let ys ← acceptMembers lookUp rest xs
    return y :: ys
  | _, _ => .error .mismatchedArguments

end

mutual

/-- Whether each address that is given as text is in canonical form, and each name has labels that are
names. -/
def wellFormed : AbiType → Value → Bool
  | address _, .text s =>
    match Address.ofText? s.toList with
    | some a => a.text == s
    | none => DomainName.Reading.ofQualified s.toList != .notName
  | array element, .list xs | array element, .tuple xs => xs.all element.wellFormed
  | tuple _ components, .list xs | tuple _ components, .tuple xs => membersWellFormed components xs
  | _, _ => true

def membersWellFormed : List (String × AbiType) → List Value → Bool
  | (_, t) :: rest, x :: xs => t.wellFormed x && membersWellFormed rest xs
  | _, _ => true

end

end AbiType

/-- The arguments of a call, aligned with the function's declared inputs. -/
def Function.align (f : Function) (arguments : List Value) : Except NodeError (List Value) :=
  (f.inputs.zip arguments).mapM fun p => p.1.2.shape.align p.2

/-- The typed arguments of a call, if the function's declared inputs accept them. -/
def Function.accept (f : Function) (lookUp : String → Except NodeError Address)
    (arguments : List Value) : Except NodeError (List AbiValue) := do
  AbiType.acceptMembers lookUp f.inputs (← f.align arguments)

/-- Takes a name for that of an account, without asking whose. -/
def anyName (_ : String) : Except NodeError Address := .ok .zero

/-- Where no name service is at hand, no name stands for an address. -/
def noName (_ : String) : Except NodeError Address := .error .unresolvedName

/-- The data of a call with these arguments. Lengths and offsets in it are single words, so data that no
word can measure are refused. -/
def Function.encode (f : Function) (arguments : List Value) : Except NodeError (List UInt8) := do
  let _ ← f.accept anyName arguments
  if AbiType.membersWellFormed f.inputs (← f.align arguments) then
    let data := f.callData (← f.accept noName arguments)
    if data.length < Nat.pow 2 256 then return data else .error .mismatchedArguments
  else .error .uncheckedAddress

end Restaking.Abi
