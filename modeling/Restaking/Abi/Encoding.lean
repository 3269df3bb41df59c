import Restaking.Abi.Type
import Restaking.Word

/-!
# Encoding

A sequence of values is encoded as a head followed by a tail. A value of fixed length stands in the head
itself; any other one stands in the tail, and the head has its offset from the start of the sequence.
-/
namespace Restaking.Abi

inductive AbiValue where
  | number (n : Nat)
  | address (a : Address)
  | flag (b : Bool)
  | word (w : Word)
  | bytes (bs : List UInt8)
  | text (s : String)
  | array (xs : List AbiValue)
  | tuple (xs : List AbiValue)

/-- The low 256 bits of a number, the highest byte first. -/
def natWord (n : Nat) : List UInt8 :=
  (List.range 32).map fun i => UInt8.ofNat (n / Nat.pow 256 (31 - i))

/-- A byte string with zeros up to a multiple of thirty-two. -/
def padRight (bs : List UInt8) : List UInt8 :=
  bs ++ List.replicate ((32 - bs.length % 32) % 32) 0

/-- A byte string after its length, with padding. -/
def lengthPrefixed (bs : List UInt8) : List UInt8 := natWord bs.length ++ padRight bs

/-- One member of a sequence: its bytes, and whether they stand in the tail. -/
structure Part where
  inTail : Bool
  bytes : List UInt8

namespace Part

def headLength (p : Part) : Nat := if p.inTail then 32 else p.bytes.length

/-- The head, where the next bytes of the tail stand at `offset`. -/
def heads (offset : Nat) : List Part → List UInt8
  | [] => []
  | p :: rest =>
    if p.inTail then natWord offset ++ heads (offset + p.bytes.length) rest
    else p.bytes ++ heads offset rest

def tails (parts : List Part) : List UInt8 :=
  (parts.filter (·.inTail)).flatMap (·.bytes)

/-- The length of the head. -/
def headLengths : List Part → Nat
  | [] => 0
  | p :: rest => p.headLength + headLengths rest

/-- Head and tail together. -/
def assemble (parts : List Part) : List UInt8 :=
  heads (headLengths parts) parts ++ tails parts

end Part

namespace AbiValue

mutual

/-- Whether the value stands in the tail of what holds it. -/
def isDynamic : AbiValue → Bool
  | bytes _ | text _ | array _ => true
  | tuple xs => anyDynamic xs
  | _ => false

def anyDynamic : List AbiValue → Bool
  | [] => false
  | x :: rest => x.isDynamic || anyDynamic rest

end

mutual

/-- The encoding of one value. -/
def encode : AbiValue → List UInt8
  | number n => natWord n
  | address a => List.replicate 12 0 ++ a.bytes
  | flag b => natWord (if b then 1 else 0)
  | word w => w.bytes
  | bytes bs => lengthPrefixed bs
  | text s => lengthPrefixed s.toUTF8.toList
  | array xs => natWord xs.length ++ Part.assemble (parts xs)
  | tuple xs => Part.assemble (parts xs)

/-- Each value as a member of a sequence. -/
def parts : List AbiValue → List Part
  | [] => []
  | x :: rest => ⟨x.isDynamic, x.encode⟩ :: parts rest

end

theorem encode_tuple (xs : List AbiValue) : (tuple xs).encode = Part.assemble (parts xs) := by
  rw [encode]

end AbiValue

/-- The data of a call: the function's selector and its encoded arguments. -/
def Function.callData (f : Function) (arguments : List AbiValue) : List UInt8 :=
  f.selector ++ (AbiValue.tuple arguments).encode

end Restaking.Abi
