import Restaking.Abi.Encoding

/-!
# Decoding

Decoding is strict: padding must be zero, a truth value zero or one, a number within its width, and all
the bytes that a value needs must be there. What follows the value is not looked at.
-/
namespace Restaking.Abi

/-- The number that bytes spell, the highest first. -/
def natOfBytes (bs : List UInt8) : Nat := bs.foldl (fun n b => 256 * n + b.toNat) 0

/-- The next thirty-two bytes, if there are so many. -/
def take32? (data : List UInt8) : Option (List UInt8) :=
  let bs := data.take 32
  if bs.length = 32 then some bs else none

def readNat? (data : List UInt8) : Option Nat := (take32? data).map natOfBytes

def readWord? (data : List UInt8) : Option Word :=
  let bs := data.take 32
  if h : bs.length = 32 then some ⟨bs, h⟩ else none

def readAddress? (data : List UInt8) : Option Address :=
  match take32? data with
  | some bs => if (bs.take 12).all (· == 0) then Address.ofBytes? (bs.drop 12) else none
  | none => none

/-- A length, that many bytes, and zeros up to a multiple of thirty-two. -/
def readBytes? (data : List UInt8) : Option (List UInt8) := do
  let n ← readNat? data
  let body := data.drop 32
  let padded := n + (32 - n % 32) % 32
  if body.length < padded then none
  else if ((body.take padded).drop n).all (· == 0) then some (body.take n)
  else none

/-- The member of a sequence whose head stands at `position` of the sequence's encoding `frame`. -/
def member? (dynamic : Bool) (decode : List UInt8 → Option AbiValue) (frame : List UInt8)
    (position : Nat) : Option AbiValue :=
  if dynamic then
    match readNat? (frame.drop position) with
    | some offset => decode (frame.drop offset)
    | none => none
  else decode (frame.drop position)

namespace AbiType

mutual

/-- The value whose own encoding starts where `data` starts. -/
def decode? : AbiType → List UInt8 → Option AbiValue
  | uint bits, data =>
    match readNat? data with
    | some n => if n < Nat.pow 2 bits then some (.number n) else none
    | none => none
  | address _, data => (readAddress? data).map .address
  | bool, data =>
    match readNat? data with
    | some 0 => some (.flag false)
    | some 1 => some (.flag true)
    | _ => none
  | word, data => (readWord? data).map .word
  | bytes, data => (readBytes? data).map .bytes
  | string, data =>
    match readBytes? data with
    | some bs => (String.fromUTF8? ⟨bs.toArray⟩).map .text
    | none => none
  | array element, data =>
    match readNat? data with
    | some n =>
      let frame := data.drop 32
      if frame.length < n * element.headLength then none
      else
        ((List.range n).mapM fun i =>
          member? element.isDynamic element.decode? frame (i * element.headLength)).map .array
    | none => none
  | tuple _ components, data => (decodeMembers? components data 0).map .tuple

/-- The members of a sequence, the first one's head at `position`. -/
def decodeMembers? : List (String × AbiType) → List UInt8 → Nat → Option (List AbiValue)
  | [], _, _ => some []
  | (_, t) :: rest, frame, position =>
    match member? t.isDynamic t.decode? frame position with
    | some x => (decodeMembers? rest frame (position + t.headLength)).map (x :: ·)
    | none => none

end

theorem decode?_tuple (struct : String) (components : List (String × AbiType)) (data : List UInt8) :
    (tuple struct components).decode? data = (decodeMembers? components data 0).map .tuple := by
  rw [decode?]

/-- A member is read before the members behind it. -/
theorem decodeMembers?_cons {name : String} {t : AbiType} {rest : List (String × AbiType)}
    {frame : List UInt8} {position : Nat} {x : AbiValue} {xs : List AbiValue}
    (hx : member? t.isDynamic t.decode? frame position = some x)
    (hxs : decodeMembers? rest frame (position + t.headLength) = some xs) :
    decodeMembers? ((name, t) :: rest) frame position = some (x :: xs) := by
  rw [decodeMembers?, hx]
  simp only [hxs, Option.map_some]

end AbiType

namespace AbiValue

mutual

/-- What a decoded value is to a reader: an address is its canonical text. -/
def toValue : AbiValue → Value
  | number n => .int n
  | address a => .text a.text
  | flag b => .bool b
  | word w => .bytes w.bytes
  | bytes bs => .bytes bs
  | text s => .text s
  | array xs => .list (toValues xs)
  | tuple xs => .tuple (toValues xs)

def toValues : List AbiValue → List Value
  | [] => []
  | x :: rest => x.toValue :: toValues rest

end

end AbiValue

/-- The value in the data that a function returned: the output itself if there is only one. -/
def Function.returned? (f : Function) (data : List UInt8) : Option Value :=
  match AbiType.decodeMembers? (f.outputs.map fun t => ("", t)) data 0 with
  | some [x] => some x.toValue
  | some xs => some (AbiValue.tuple xs).toValue
  | none => none

end Restaking.Abi
