/-!
# Sets of characters

A set that a standard lists is kept as runs of code points: the first, the last, and the step between
neighbours.
-/
namespace Restaking.Text

/-- Whether a character is one of the first 128. -/
def isAscii (c : Char) : Bool := c.toNat < 0x80

/-- Whether a character stands between two code points, ends included. -/
def isBetween (first last : Nat) (c : Char) : Bool := first ≤ c.toNat && c.toNat ≤ last

/-- Runs `(first, last, step)` of code points. -/
abbrev Runs := List (Nat × Nat × Nat)

/-- Whether a character stands in one of the runs. -/
def Runs.contains (runs : Runs) (c : Char) : Bool :=
  let n := c.toNat
  runs.any fun r => r.1 ≤ n && n ≤ r.2.1 && (n - r.1) % r.2.2 == 0

end Restaking.Text
