import Restaking.Text.Blank
import Restaking.Text.Digit
import Restaking.Decimal.Binary

/-!
# Reading a double

The accepted texts are an optional sign before a decimal with an optional exponent, or before the
words for infinity and not-a-number in any case. White space around is skipped. A text without white
space around may also have single underscores anywhere but at its ends, which do not count. A magnitude
beyond the greatest double reads as infinity.
-/
namespace Restaking.Decimal

open Restaking.Text

/-- The double nearest to `digits * 10 ^ exponent`. -/
def nearest (digits : Nat) (exponent : Int) : Float :=
  let top := exponent + (Nat.toDigits 10 digits).length
  if digits == 0 || top < -400 then 0.0
  else if 400 < top then 1.0 / 0.0
  else Float.ofScientific digits (exponent < 0) exponent.natAbs

def isDigit (c : Char) : Bool := (asciiDigit? c).isSome

/-- The value of leading digits. -/
def digitsOf (cs : List Char) : Nat := ofDigits (cs.filterMap asciiDigit?)

/-- An exponent, which must take all that is left. -/
def readExponent? : List Char → Option Int
  | [] => some 0
  | mark :: rest =>
    if mark == 'e' || mark == 'E' then
      let (negative, digits) := match rest with
        | '-' :: r => (true, r)
        | '+' :: r => (false, r)
        | r => (false, r)
      if digits.isEmpty || !digits.all isDigit then none
      else some (if negative then -(digitsOf digits : Int) else digitsOf digits)
    else none

/-- A decimal without a sign. -/
def readUnsigned? (cs : List Char) : Option Float :=
  let whole := cs.takeWhile isDigit
  let (fraction, rest) := match cs.dropWhile isDigit with
    | '.' :: r => (r.takeWhile isDigit, r.dropWhile isDigit)
    | r => ([], r)
  if whole.isEmpty && fraction.isEmpty then none
  else (readExponent? rest).map fun e => nearest (digitsOf (whole ++ fraction)) (e - fraction.length)

/-- A word for infinity or not-a-number, or a decimal. -/
def readMagnitude? (cs : List Char) : Option Float :=
  let word := String.ofList (cs.map Char.toLower)
  if word == "inf" || word == "infinity" then some (1.0 / 0.0)
  else if word == "nan" then some (0.0 / 0.0)
  else readUnsigned? cs

/-- A text without separators or white space. -/
def readSigned? : List Char → Option Float
  | '-' :: rest => (readMagnitude? rest).map Float.neg
  | '+' :: rest => readMagnitude? rest
  | rest => readMagnitude? rest

/-- Whether two underscores stand side by side. -/
def hasDoubleSeparator : List Char → Bool
  | a :: b :: rest => (a == '_' && b == '_') || hasDoubleSeparator (b :: rest)
  | _ => false

/-- The text without its underscores, where they may stand. -/
def withoutSeparators? (cs : List Char) : Option (List Char) :=
  if cs.head? == some '_' || cs.getLast? == some '_' || hasDoubleSeparator cs then none
  else some (cs.filter (· != '_'))

/-- Reads a whole text. -/
def read? (cs : List Char) : Option Float :=
  match readSigned? (trimWhere isSpace cs) with
  | some x => some x
  | none => (withoutSeparators? cs).bind readSigned?

end Restaking.Decimal
