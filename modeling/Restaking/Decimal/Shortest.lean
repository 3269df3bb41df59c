import Restaking.Decimal.Binary

/-!
# The shortest decimal that reads back

The reals that round to a given double form an interval, with its ends when the mantissa is even.
For one digit, two digits and so on, the two neighbours of the double on the decimal grid of that
many digits are compared with the interval in exact arithmetic. The first grid with a neighbour in
the interval gives the digits; of two such neighbours the nearer one is taken.
-/
namespace Restaking.Decimal

/-- A positive decimal number, `digits * 10 ^ exponent`. -/
structure Scientific where
  digits : Nat
  exponent : Int
  deriving DecidableEq, Repr

/-- The reals that round to one positive double, and the double itself, as fractions of `scale`. -/
structure Rounding where
  low : Nat
  value : Nat
  high : Nat
  scale : Nat
  closed : Bool

/-- The interval of `mantissa * 2 ^ exponent` units. Below a power of two the gap is half as wide. -/
def Rounding.ofUnits (mantissa exponent : Nat) : Rounding where
  low :=
    let gap := if mantissa == Nat.pow 2 52 && 0 < exponent then 1 else 2
    4 * mantissa * Nat.pow 2 exponent - gap * Nat.pow 2 exponent
  value := 4 * mantissa * Nat.pow 2 exponent
  high := 4 * mantissa * Nat.pow 2 exponent + 2 * Nat.pow 2 exponent
  scale := 4 * unitsPerOne
  closed := mantissa % 2 == 0

/-- Multiplies `n` by `10 ^ e` if that keeps it whole. -/
def shiftUp (n : Nat) (e : Int) : Nat := n * Nat.pow 10 e.toNat

namespace Rounding

/-- Whether `c * 10 ^ e` lies in the interval. -/
def contains (r : Rounding) (c : Nat) (e : Int) : Bool :=
  let point := shiftUp (c * r.scale) e
  let low := shiftUp r.low (-e)
  let high := shiftUp r.high (-e)
  if r.closed then low ≤ point && point ≤ high else low < point && point < high

/-- The exponent `e` for which the value lies from `10 ^ e` to below `10 ^ (e + 1)`. -/
def magnitude (r : Rounding) : Int :=
  if r.scale ≤ r.value then ((Nat.toDigits 10 (r.value / r.scale)).length : Int) - 1
  else
    let places := (Nat.toDigits 10 (r.scale / r.value)).length
    if r.value * Nat.pow 10 (places - 1) == r.scale then -((places : Int) - 1) else -(places : Int)

/-- The neighbour of the value on the grid of step `10 ^ e` that reads back, if one does. -/
def neighbour? (r : Rounding) (e : Int) : Option Scientific :=
  let value := shiftUp r.value (-e)
  let step := shiftUp r.scale e
  let below := value / step
  let above := below + 1
  match r.contains below e && 0 < below, r.contains above e with
  | true, false => some ⟨below, e⟩
  | false, true => some ⟨above, e⟩
  | false, false => none
  | true, true =>
    let down := value - below * step
    let up := above * step - value
    if down < up || (down == up && below % 2 == 0) then some ⟨below, e⟩ else some ⟨above, e⟩

end Rounding

/-- The shortest decimal that rounds to `mantissa * 2 ^ exponent` units; seventeen digits suffice. -/
def shortest (mantissa exponent : Nat) : Scientific :=
  let r := Rounding.ofUnits mantissa exponent
  let top := r.magnitude
  ((List.range 17).findSome? fun (n : Nat) => r.neighbour? (top - n)).getD ⟨0, 0⟩

end Restaking.Decimal
