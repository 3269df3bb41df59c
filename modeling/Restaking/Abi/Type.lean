import Restaking.Address

/-!
# Types and functions of contracts

The types that the core contracts use in their view functions. A function is named on the chain by the
first four bytes of the Keccak-256 hash of its signature, which lists the types of its inputs.
-/
namespace Restaking.Abi

inductive AbiType where
  | uint (bits : Nat)
  /-- An address; in source form it may be typed as a contract. -/
  | address (contract : Option String)
  | bool
  /-- Thirty-two bytes. -/
  | word
  | bytes
  | string
  | array (element : AbiType)
  | tuple (struct : String) (components : List (String × AbiType))

namespace AbiType

mutual

/-- The type in a signature, with tuples spelled out. -/
def signature : AbiType → String
  | uint bits => "uint" ++ toString bits
  | address _ => "address"
  | bool => "bool"
  | word => "bytes32"
  | bytes => "bytes"
  | string => "string"
  | array element => element.signature ++ "[]"
  | tuple _ components => "(" ++ ",".intercalate (signatures components) ++ ")"

/-- The types of components in a signature. -/
def signatures : List (String × AbiType) → List String
  | [] => []
  | (_, t) :: rest => t.signature :: signatures rest

end

/-- The type in an interface description, where tuples are described apart. -/
def label : AbiType → String
  | tuple .. => "tuple"
  | array element => element.label ++ "[]"
  | t => t.signature

/-- The type in source form. -/
def sourceLabel : AbiType → String
  | address (some contract) => "contract " ++ contract
  | tuple struct _ => "struct " ++ struct
  | array element => element.sourceLabel ++ "[]"
  | t => t.signature

/-- The components of a tuple or of the tuples in an array. -/
def components? : AbiType → Option (List (String × AbiType))
  | tuple _ components => some components
  | array element => element.components?
  | _ => none

mutual

/-- Whether an encoded value's length depends on the value. -/
def isDynamic : AbiType → Bool
  | bytes | string | array _ => true
  | tuple _ components => anyDynamic components
  | _ => false

def anyDynamic : List (String × AbiType) → Bool
  | [] => false
  | (_, t) :: rest => t.isDynamic || anyDynamic rest

end

mutual

/-- How many bytes a value takes in the head of what holds it. -/
def headLength : AbiType → Nat
  | tuple _ components => if anyDynamic components then 32 else headLengths components
  | _ => 32

def headLengths : List (String × AbiType) → Nat
  | [] => 0
  | (_, t) :: rest => t.headLength + headLengths rest

end

end AbiType

/-- A view function of a contract. Outputs have no names here. -/
structure Function where
  name : String
  inputs : List (String × AbiType)
  outputs : List AbiType

namespace Function

/-- The name and the types of the inputs. -/
def signature (f : Function) : String :=
  f.name ++ "(" ++ ",".intercalate (f.inputs.map fun i => i.2.signature) ++ ")"

/-- The four bytes that stand for the function in a call. -/
def selector (f : Function) : List UInt8 := (Keccak.hashText f.signature.toList).take 4

end Function

end Restaking.Abi
