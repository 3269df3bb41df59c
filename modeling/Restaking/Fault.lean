import Restaking.Value.Display

/-!
# Faults of a configuration

Every configured field is read on its own. What is wrong with one is a fault under its name, with a code
and wording; a configuration that is refused reports all its faults.
-/
namespace Restaking

/-- Why the value of a configured field was refused. -/
inductive FieldFault where
  | notAddress (given : Value)
  | notText
  | notUtf8
  | notNumber
  | notNumberText

namespace FieldFault

/-- The code that names the fault. -/
def code : FieldFault → String
  | notAddress _ => "value_error"
  | notText => "string_type"
  | notUtf8 => "string_unicode"
  | notNumber => "float_type"
  | notNumberText => "float_parsing"

/-- The wording. -/
def message : FieldFault → String
  | notAddress given => "Value error, Invalid contract address: " ++ given.plain
  | notText => "Input should be a valid string"
  | notUtf8 => "Input should be a valid string, unable to parse raw data as a unicode string"
  | notNumber => "Input should be a valid number"
  | notNumberText => "Input should be a valid number, unable to parse string as a number"

end FieldFault

/-- The faults of a configuration, at most one a field, in the order of the fields. -/
abbrev Faults := List (String × FieldFault)

end Restaking
