import Restaking.Decimal.Shortest

/-!
# Writing a double

A layout says which exponents are written positionally and how the others look. Digits come from
`shortest`, so what is written always reads back as the same double.
-/
namespace Restaking.Decimal

/-- How doubles look in text. -/
structure Layout where
  /-- The least decimal exponent that is written positionally. -/
  least : Int
  /-- The greatest decimal exponent that is written positionally. -/
  greatest : Int
  /-- The fewest digits of an exponent. -/
  exponentWidth : Nat
  nan : String
  infinity : String

/-- Digits without trailing zeros, and the exponent of the leading one. -/
def Scientific.leading (s : Scientific) : List Char × Int :=
  let all := Nat.toDigits 10 s.digits
  let kept := ((all.reverse).dropWhile (· == '0')).reverse
  (kept, s.exponent + all.length - 1)

/-- Digits around a point, with at least one on each side. -/
def positional (digits : List Char) (top : Int) : List Char :=
  if top < 0 then '0' :: '.' :: (List.replicate (-top - 1).toNat '0' ++ digits)
  else
    let whole := top.toNat + 1
    let fraction := digits.drop whole
    digits.take whole ++ List.replicate (whole - digits.length) '0' ++ '.' ::
      (if fraction.isEmpty then ['0'] else fraction)

/-- One digit, a point if more follow, and the exponent with its sign. -/
def exponential (width : Nat) (digits : List Char) (top : Int) : List Char :=
  let power := Nat.toDigits 10 top.natAbs
  let fraction := digits.drop 1
  digits.take 1 ++ (if fraction.isEmpty then [] else '.' :: fraction) ++
    ['e', if top < 0 then '-' else '+'] ++ List.replicate (width - power.length) '0' ++ power

/-- The text of a double. -/
def Layout.write (l : Layout) (x : Float) : String :=
  let signed (negative : Bool) (cs : List Char) : String :=
    String.ofList (if negative then '-' :: cs else cs)
  match Reading.ofFloat x with
  | .nan => l.nan
  | .infinite negative => signed negative l.infinity.toList
  | .finite negative mantissa exponent =>
    if mantissa == 0 then signed negative ['0', '.', '0']
    else
      let (digits, top) := (shortest mantissa exponent).leading
      signed negative (if l.least ≤ top && top ≤ l.greatest then positional digits top
        else exponential l.exponentWidth digits top)

end Restaking.Decimal
