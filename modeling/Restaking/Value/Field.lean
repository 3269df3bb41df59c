import Restaking.Value.Conversion

/-!
# Fields of an answer

A structured answer is a sequence, whose fields have positions, or a mapping, whose fields have names.
-/
namespace Restaking

/-- Why an answer has no such field. -/
inductive FieldError where
  | listTooShort
  | tupleTooShort
  | missing (name : String)
  | textByName
  | bytesByName (buffer : Bool)
  | noFields (type : String)

namespace FieldError

/-- The sort of fault. -/
def kind : FieldError → FaultKind
  | listTooShort | tupleTooShort => .index
  | missing _ => .key
  | textByName | bytesByName _ | noFields _ => .type

/-- The wording; a missing name is shown quoted. -/
def message : FieldError → String
  | listTooShort => "list index out of range"
  | tupleTooShort => "tuple index out of range"
  | missing name => (Value.text name).quoted
  | textByName => "string indices must be integers, not 'str'"
  | bytesByName false => "byte indices must be integers or slices, not str"
  | bytesByName true => "bytearray indices must be integers or slices, not str"
  | noFields t => "'" ++ t ++ "' object is not subscriptable"

end FieldError

namespace Value

/-- The field of that name, of an answer that is no sequence. -/
def named (name : String) : Value → Except FieldError Value
  | mapping entries =>
    match entries.lookup name with
    | some v => .ok v
    | none => .error (.missing name)
  | text _ => .error .textByName
  | bytes _ => .error (.bytesByName false)
  | buffer _ => .error (.bytesByName true)
  | v => .error (.noFields v.typeName)

/-- The field at a position of a sequence, or of a name otherwise. -/
def field (position : Nat) (name : String) : Value → Except FieldError Value
  | list xs =>
    match xs[position]? with
    | some v => .ok v
    | none => .error .listTooShort
  | tuple xs =>
    match xs[position]? with
    | some v => .ok v
    | none => .error .tupleTooShort
  | v => v.named name

end Value

end Restaking
