import Restaking.Address

/-!
# Caller's input: addresses and 32-byte words

A caller may spell an address or a hash as text or give its bytes. Each reader takes the label under
which a refusal names the argument. A text for a word may have blanks around it and one mark in front;
an odd number of digits stands for a number whose leading zero was left out.
-/
namespace Restaking

open Restaking.Text

/-- Thirty-two bytes. -/
structure Word where
  bytes : List UInt8
  length_eq : bytes.length = 32
  deriving DecidableEq

/-- Why a caller's argument was refused. -/
inductive InputError where
  | notAddress (label : String) (given : Value)
  | notHex (label : String) (given : String)
  | wrongLength (label : String) (length : Nat)
  | wrongType (label : String) (type : String)

namespace InputError

/-- The sort of fault. -/
def kind : InputError → FaultKind
  | notAddress .. | notHex .. | wrongLength .. => .value
  | wrongType .. => .type

/-- The wording. -/
def message : InputError → String
  | notAddress label given => "Invalid " ++ label ++ ": " ++ given.plain
  | notHex label given => "Invalid " ++ label ++ ": " ++ (Value.text given).quoted
  | wrongLength label n => label ++ " must be 32 bytes, got " ++ toString n
  | wrongType label t => label ++ " must be bytes or a hex string, got " ++ t

end InputError

/-- The address that a caller gave. -/
def Address.ofInput (label : String) (v : Value) : Except InputError Address :=
  match Address.ofValue? v with
  | some a => .ok a
  | none => .error (.notAddress label v)

namespace Word

/-- The word of thirty-two bytes. -/
def ofBytes (label : String) (bs : List UInt8) : Except InputError Word :=
  if h : bs.length = 32 then .ok ⟨bs, h⟩ else .error (.wrongLength label bs.length)

/-- The word that a caller gave. -/
def ofInput (label : String) : Value → Except InputError Word
  | .text s =>
    match Hex.decode? (Hex.evened (Hex.dropMark (trim s.toList))) with
    | some bs => ofBytes label bs
    | none => .error (.notHex label s)
  | .bytes bs | .buffer bs => ofBytes label bs
  | v => .error (.wrongType label v.typeName)

end Word

end Restaking
