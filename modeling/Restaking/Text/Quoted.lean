import Restaking.Text.Printable
import Restaking.Text.Hex

/-!
# Quoted text

How a message shows a text or a byte string so that its ends and its odd characters are visible.
Single quotes are used unless the content has single quotes and no double ones. The quote in use, the
backslash and whatever is not printable are escaped.
-/
namespace Restaking.Text.Quoted

def apostrophe : Char := '\x27'
def quotation : Char := '\x22'
def backslash : Char := '\x5c'

/-- The quote that needs fewer escapes, single by preference. -/
def markFor (single double : Bool) : Char :=
  if single && !double then quotation else apostrophe

/-- The escapes that have a letter of their own. -/
def letterEscape? (n : Nat) : Option Char :=
  if n == 0x0A then some 'n' else if n == 0x0D then some 'r' else if n == 0x09 then some 't' else none

/-- One character inside quotes `mark`. -/
def escapeChar (mark c : Char) : List Char :=
  if c == mark || c == backslash then [backslash, c]
  else
    match letterEscape? c.toNat with
    | some l => [backslash, l]
    | none =>
      if isPrintable c then [c]
      else if c.toNat < 0x100 then backslash :: 'x' :: Hex.padded 2 c.toNat
      else if c.toNat < 0x10000 then backslash :: 'u' :: Hex.padded 4 c.toNat
      else backslash :: 'U' :: Hex.padded 8 c.toNat

/-- A text between quotes. -/
def ofText (cs : List Char) : List Char :=
  let mark := markFor (cs.contains apostrophe) (cs.contains quotation)
  mark :: (cs.flatMap (escapeChar mark) ++ [mark])

/-- One byte inside quotes `mark`: ASCII alone is shown as it is. -/
def escapeByte (mark : Char) (b : UInt8) : List Char :=
  if b.toNat < 0x7F then escapeChar mark (Char.ofNat b.toNat)
  else backslash :: 'x' :: Hex.encodeByte b

/-- A byte string between quotes, after the letter `b`. -/
def ofBytes (bs : List UInt8) : List Char :=
  let mark := markFor (bs.contains 0x27) (bs.contains 0x22)
  'b' :: mark :: (bs.flatMap (escapeByte mark) ++ [mark])

/-- A byte string that may be changed in place: its apostrophes are escaped whatever the quotes. -/
def ofBuffer (bs : List UInt8) : List Char :=
  let mark := markFor (bs.contains 0x27) (bs.contains 0x22)
  let escaped (b : UInt8) : List Char :=
    if b == 0x27 then [backslash, apostrophe] else escapeByte mark b
  'b' :: mark :: (bs.flatMap escaped ++ [mark])

end Restaking.Text.Quoted
