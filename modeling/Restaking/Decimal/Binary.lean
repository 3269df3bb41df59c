/-!
# Doubles as exact numbers

A finite double is a whole number of units of `2 ^ -1074`, up to its sign. `Reading.ofFloat` takes a
double apart from its bits, so comparisons with whole numbers and the choice of decimal digits are
made in exact arithmetic.
-/
namespace Restaking.Decimal

/-- How many units make one. -/
def unitsPerOne : Nat := Nat.pow 2 1074

/-- What the bits of a double denote. A finite one is `mantissa * 2 ^ exponent` units. -/
inductive Reading where
  | nan
  | infinite (negative : Bool)
  | finite (negative : Bool) (mantissa exponent : Nat)
  deriving DecidableEq, Repr

namespace Reading

/-- Takes a double apart. -/
def ofFloat (x : Float) : Reading :=
  let bits := x.toBits.toNat
  let negative := bits / Nat.pow 2 63 == 1
  let biased := bits / Nat.pow 2 52 % 2048
  let fraction := bits % Nat.pow 2 52
  if biased == 2047 then (if fraction == 0 then .infinite negative else .nan)
  else if biased == 0 then .finite negative fraction 0
  else .finite negative (Nat.pow 2 52 + fraction) (biased - 1)

/-- The units of a finite double, with its sign. -/
def units? : Reading → Option Int
  | .finite negative mantissa exponent =>
    let n : Nat := mantissa * Nat.pow 2 exponent
    some (if negative then -(n : Int) else n)
  | _ => none

end Reading

/-- The whole part of a finite double, cut toward zero. -/
def truncate? (x : Float) : Option Int :=
  (Reading.ofFloat x).units?.map fun n => n.tdiv unitsPerOne

/-- The greatest whole number that a finite double is not below. -/
def floor? (x : Float) : Option Int :=
  (Reading.ofFloat x).units?.map fun n => n.fdiv unitsPerOne

/-- The nearest double to a whole number, unless it is beyond the greatest finite one. -/
def ofInt? (n : Int) : Option Float :=
  let x := Float.ofInt n
  match Reading.ofFloat x with
  | .finite .. => some x
  | _ => none

end Restaking.Decimal
