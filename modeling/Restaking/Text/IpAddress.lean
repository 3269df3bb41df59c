import Restaking.Text.Hex
import Restaking.Text.Label

/-!
# Addresses of hosts

A host may be given by its address: four decimal numbers with dots between them, or eight groups of
hexadecimal digits with colons between them, where two colons stand for a gap of zeros and the last two
groups may be written as four decimal numbers.
-/
namespace Restaking.Text.IpAddress

/-- A number of one to three decimal digits. -/
def isShortNumber (cs : List Char) : Bool := !cs.isEmpty && cs.length ≤ 3 && cs.all Char.isDigit

/-- A number of eight bits without needless zeros. -/
def isOctet (cs : List Char) : Bool :=
  isShortNumber cs && (cs == ['0'] || cs.head? != some '0')
    && cs.foldl (fun n c => 10 * n + (c.toNat - 48)) 0 ≤ 255

/-- Four parts with dots between them. -/
def isQuad (part : List Char → Bool) (cs : List Char) : Bool :=
  (labels cs).length == 4 && (labels cs).all part

/-- One to four hexadecimal digits. -/
def isGroup (cs : List Char) : Bool :=
  !cs.isEmpty && cs.length ≤ 4 && cs.all fun c => (Hex.digit? c).isSome

/-- How many groups some parts stand for; `quad` says what may stand for the last two. -/
def groups? (quad : List Char → Bool) : List (List Char) → Option Nat
  | [] => some 0
  | [p] => if isGroup p then some 1 else if quad p then some 2 else none
  | p :: rest => if isGroup p then (groups? quad rest).map (· + 1) else none

/-- How many groups a side of the gap stands for. -/
def side? (quad : List Char → Bool) (cs : List Char) : Option Nat :=
  if cs.isEmpty then some 0 else groups? quad (splitWhere (· == ':') cs)

/-- What stands before and after the first gap. -/
def atGap? : List Char → Option (List Char × List Char)
  | ':' :: ':' :: rest => some ([], rest)
  | c :: rest => (atGap? rest).map fun r => (c :: r.1, r.2)
  | [] => none

/-- Whether a text is an address in groups. A gap stands for at least one group. -/
def isLong (quad : List Char → Bool) (cs : List Char) : Bool :=
  match atGap? cs with
  | none => side? quad cs == some 8
  | some (left, right) =>
    match side? (fun _ => false) left, side? quad right with
    | some a, some b => a + b < 8
    | _, _ => false

/-- Whether a text is an address in groups, perhaps with the name of a zone after a percent sign. -/
def isScoped (cs : List Char) : Bool :=
  isLong (isQuad isOctet) (cs.takeWhile (· != '%'))
    && match cs.dropWhile (· != '%') with
      | [] => true
      | _ :: zone => !zone.isEmpty && !zone.contains '%'

end Restaking.Text.IpAddress
