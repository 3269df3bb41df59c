import Restaking.Value.Display
import Restaking.Text.Digit
import Restaking.Text.Blank

/-!
# Converting values

A value becomes a whole number, a byte string or a list of elements, or is refused for a stated
reason. Whole numbers are also read from text, where digits of every script count.
-/
namespace Restaking

open Restaking.Text

/-- What sort of fault a refusal reports. -/
inductive FaultKind where
  | value
  | type
  | overflow
  | key
  | index
  | attribute
  | memory
  deriving DecidableEq, Repr

/-- Why a value was not converted. -/
inductive ConversionError where
  /-- A text or byte string that spells no whole number; `given` is what the message shows. -/
  | notIntegerText (given : Value)
  /-- A text or byte string that spells a whole number with too many digits. -/
  | tooManyDigits (count : Nat)
  | notANumber
  | infinite
  | notNumeric (type : String)
  | negativeCount
  | countTooLarge
  /-- A count of bytes that no byte string has. -/
  | tooManyBytes
  /-- A count of bytes for which there is no room. -/
  | noRoom
  | byteOutOfRange
  | notIntegral (type : String)
  | textWithoutEncoding
  | notBytes (type : String)
  | notIterable (type : String)
  /-- Something that stands where a leaf belongs and is none. -/
  | notLeaf (type : String)
  /-- A whole claim that stands where a leaf belongs. -/
  | claimAsLeaf
  | tooLargeForDouble
  /-- An answer of a type that may denote an address, but denotes none. -/
  | notAddress
  /-- An answer of a type that never denotes an address. -/
  | notAddressType

namespace ConversionError

/-- The sort of fault. -/
def kind : ConversionError → FaultKind
  | notIntegerText _ | tooManyDigits _ | notANumber | negativeCount | byteOutOfRange | notAddress => .value
  | infinite | countTooLarge | tooManyBytes | tooLargeForDouble => .overflow
  | noRoom => .memory
  | notNumeric _ | notIntegral _ | textWithoutEncoding | notBytes _ | notIterable _ | claimAsLeaf
  | notAddressType => .type
  | notLeaf _ => .attribute

/-- The most characters of a value that a message about a number shows; of a byte string, no more bytes are
quoted. -/
def shownLimit : Nat := 200

/-- The most digits of a whole number that is read. -/
def digitLimit : Nat := 4300

/-- The wording. The two refusals of an answered address and that of a claim among leaves have none of their
own. -/
def message? : ConversionError → Option String
  | notIntegerText given =>
    some ("invalid literal for int() with base 10: " ++
      String.ofList (given.quoted.toList.take shownLimit))
  | tooManyDigits count =>
    some ("Exceeds the limit (" ++ toString digitLimit ++
      " digits) for integer string conversion: value has " ++ toString count ++
      " digits; use sys.set_int_max_str_digits() to increase the limit")
  | notANumber => some "cannot convert float NaN to integer"
  | infinite => some "cannot convert float infinity to integer"
  | notNumeric t =>
    some ("int() argument must be a string, a bytes-like object or a real number, not '" ++ t ++ "'")
  | negativeCount => some "negative count"
  | countTooLarge => some "cannot fit 'int' into an index-sized integer"
  | tooManyBytes => some "byte string is too large"
  | noRoom => some ""
  | byteOutOfRange => some "bytes must be in range(0, 256)"
  | notIntegral t => some ("'" ++ t ++ "' object cannot be interpreted as an integer")
  | textWithoutEncoding => some "string argument without an encoding"
  | notBytes t => some ("cannot convert '" ++ t ++ "' object to bytes")
  | notIterable t => some ("'" ++ t ++ "' object is not iterable")
  | notLeaf t => some ("'" ++ t ++ "' object has no attribute 'as_abi'")
  | tooLargeForDouble => some "int too large to convert to float"
  | claimAsLeaf | notAddress | notAddressType => none

end ConversionError

/-- The leading digits, with at most one underscore between two of them, and what follows; `digit?` gives
the value of a digit. There must be a digit, and an underscore must have one behind it. -/
def leadingDigits? (digit? : Char → Option Nat) : List Char → Option (List Nat × List Char)
  | [] => none
  | c :: rest =>
    match digit? c, rest with
    | none, _ => none
    | some d, '_' :: more => (leadingDigits? digit? more).map fun r => (d :: r.1, r.2)
    | some d, rest =>
      match leadingDigits? digit? rest with
      | some r => some (d :: r.1, r.2)
      | none => if (rest.head?.bind digit?).isSome then none else some ([d], rest)

/-- Why a text was not read as a whole number. -/
inductive NumeralFault where
  | notNumeral
  | tooManyDigits (count : Nat)

/-- A whole number without a sign. Too many digits are a fault whatever follows them. -/
def readNatural (digit? : Char → Option Nat) (cs : List Char) : Except NumeralFault Nat :=
  match leadingDigits? digit? cs with
  | none => .error .notNumeral
  | some (ds, rest) =>
    if ConversionError.digitLimit < ds.length then .error (.tooManyDigits ds.length)
    else if rest.isEmpty then .ok (ofDigits ds)
    else .error .notNumeral

/-- A whole number with an optional sign, after blanks at both ends are dropped. -/
def readInteger (blank : Char → Bool) (digit? : Char → Option Nat) (cs : List Char) :
    Except NumeralFault Int :=
  match trimWhere blank cs with
  | '-' :: rest => (readNatural digit? rest).map fun n => -(n : Int)
  | '+' :: rest => (readNatural digit? rest).map fun n => (n : Int)
  | rest => (readNatural digit? rest).map fun n => (n : Int)

namespace Value

/-- A whole number spelled in bytes: ASCII digits, ASCII white space around. -/
def readIntegerBytes (bs : List UInt8) : Except NumeralFault Int :=
  readInteger (fun c => isSpace c && c.toNat < 0x80) asciiDigit?
    (bs.map fun b => Char.ofNat b.toNat)

/-- The refusal of a text or byte string, of which the message may show `given`. -/
def refusedNumeral (given : Value) : NumeralFault → ConversionError
  | .notNumeral => .notIntegerText given
  | .tooManyDigits count => .tooManyDigits count

/-- The whole number that a value denotes; doubles are cut toward zero. -/
def toInteger : Value → Except ConversionError Int
  | int n => .ok n
  | bool b => .ok (if b then 1 else 0)
  | float x =>
    match Decimal.Reading.ofFloat x, Decimal.truncate? x with
    | _, some n => .ok n
    | .nan, none => .error .notANumber
    | _, none => .error .infinite
  | text s => (readInteger isSpace decimalValue? s.toList).mapError (refusedNumeral (.text s))
  | bytes bs | buffer bs =>
    (readIntegerBytes bs).mapError (refusedNumeral (.bytes (bs.take ConversionError.shownLimit)))
  | v => .error (.notNumeric v.typeName)

/-- The elements of a value, in order: characters of a text, bytes as numbers, keys of a mapping. -/
def elements : Value → Except ConversionError (List Value)
  | list xs | tuple xs => .ok xs
  | text s => .ok (s.toList.map fun c => .text (String.ofList [c]))
  | bytes bs | buffer bs => .ok (bs.map fun b => .int b.toNat)
  | mapping entries => .ok (entries.map fun e => .text e.1)
  | v => .error (.notIterable v.typeName)

/-- One byte given as a number. -/
def toByte : Value → Except ConversionError UInt8
  | int n => if 0 ≤ n ∧ n < 256 then .ok (UInt8.ofNat n.toNat) else .error .byteOutOfRange
  | bool b => .ok (if b then 1 else 0)
  | v => .error (.notIntegral v.typeName)

/-- The most bytes that a byte string may have beside its header, which takes thirty-three. -/
def greatestLength : Nat := Nat.pow 2 63 - 1 - 33

/-- The most bytes for which there is room. -/
def roomLimit : Nat := Nat.pow 2 32

/-- That many zero bytes. A count must fit a machine word, and there must be room for it. -/
def zeroBytes (n : Int) : Except ConversionError (List UInt8) :=
  if n < -Nat.pow 2 63 ∨ Nat.pow 2 63 ≤ n then .error .countTooLarge
  else if n < 0 then .error .negativeCount
  else if greatestLength < n then .error .tooManyBytes
  else if roomLimit < n then .error .noRoom
  else .ok (List.replicate n.toNat 0)

/-- The byte string that a value denotes. A number stands for that many zero bytes. -/
def toBytes : Value → Except ConversionError (List UInt8)
  | bytes bs | buffer bs => .ok bs
  | int n => zeroBytes n
  | bool b => zeroBytes (if b then 1 else 0)
  | list xs | tuple xs => xs.mapM toByte
  | mapping entries => entries.mapM fun e => toByte (.text e.1)
  | text _ => .error .textWithoutEncoding
  | v => .error (.notBytes v.typeName)

end Value

end Restaking
