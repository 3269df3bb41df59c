import Restaking.Text.CharSet

/-!
# Punycode

A label that is not ASCII goes into the name system in ASCII: first its ASCII characters, then, after a
hyphen, where the others belong. They are put in from the least to the greatest; each is a difference,
written to base thirty-six with thresholds that adapt to the differences before.
-/
namespace Restaking.Text.Punycode

/-- The digit of a value below thirty-six. -/
def digitChar (d : Nat) : Char := if d < 26 then Char.ofNat (97 + d) else Char.ofNat (22 + d)

/-- The threshold of the digit at position `k`, counted in steps of thirty-six from there. -/
def threshold (k bias : Nat) : Nat :=
  if k ≤ bias + 1 then 1 else if bias + 26 ≤ k then 26 else k - bias

theorem threshold_pos (k bias : Nat) : 1 ≤ threshold k bias := by
  unfold threshold
  split
  · omega
  · split <;> omega

/-- The digits of a difference. -/
def digits (q k bias : Nat) : List Char :=
  let t := threshold k bias
  if q < t then [digitChar q]
  else digitChar (t + (q - t) % (36 - t)) :: digits ((q - t) / (36 - t)) (k + 36) bias
termination_by q
decreasing_by
  have := threshold_pos k bias
  exact Nat.lt_of_le_of_lt (Nat.div_le_self _ _) (by omega)

/-- Divides a difference until it is small, and counts how often. -/
def damp (delta k : Nat) : Nat :=
  if 455 < delta then damp (delta / 35) (k + 36) else k + 36 * delta / (delta + 38)
termination_by delta

/-- The bias after a difference, when `count` characters are in place. -/
def adapt (delta count : Nat) (first : Bool) : Nat :=
  let d := if first then delta / 700 else delta / 2
  damp (d + d / count) 0

/-- How far the encoding of a label has come. -/
structure Progress where
  delta : Nat
  bias : Nat
  /-- How many characters are in place. -/
  placed : Nat
  /-- What was written, the last character first. -/
  written : List Char

/-- Takes notice of a character of the label, when characters up to `m` are put in place. -/
def visit (m start : Nat) (s : Progress) (c : Char) : Progress :=
  if c.toNat < m then { s with delta := s.delta + 1 }
  else if c.toNat = m then
    { delta := 0, bias := adapt s.delta (s.placed + 1) (s.placed == start), placed := s.placed + 1
      written := (digits s.delta 36 s.bias).reverse ++ s.written }
  else s

/-- Puts in place the characters with the given code points, which ascend from `n`. -/
def place (cs : List Char) (start : Nat) : List Nat → Nat → Progress → Progress
  | [], _, s => s
  | m :: more, n, s =>
    let s := cs.foldl (visit m start) { s with delta := s.delta + (m - n) * (s.placed + 1) }
    place cs start more (m + 1) { s with delta := s.delta + 1 }

/-- The encoding of a label. -/
def encode (cs : List Char) : List Char :=
  let basic := cs.filter isAscii
  let others := ((cs.filter fun c => !isAscii c).map Char.toNat).mergeSort.eraseDups
  let start := if basic.isEmpty then [] else '-' :: basic.reverse
  (place cs basic.length others 0x80 ⟨0, 72, basic.length, start⟩).written.reverse

end Restaking.Text.Punycode
