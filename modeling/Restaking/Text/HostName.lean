import Restaking.Text.Composition
import Restaking.Text.HostChar
import Restaking.Text.Label
import Restaking.Text.Punycode
import Restaking.Text.Upper

/-!
# Host names

Names of hosts are labels of at most sixty-three characters. A label with characters beyond ASCII must
keep the rules of internationalized names: its characters are allowed where they stand, it is composed,
hyphens and marks stand in their places, and text in two directions is not mixed. Some readers map what
they are given to such a name first. What goes to the resolver of the system is held to an older and
weaker rule.
-/
namespace Restaking.Text.HostName

/-- The most characters of a label. -/
def labelLimit : Nat := 63

/-- What an encoded label starts with. -/
def encodedStart : List Char := "xn--".toList

/-- How long a label is in the name system. -/
def encodedLength (label : List Char) : Nat :=
  if label.all isAscii then label.length
  else encodedStart.length + (Punycode.encode label).length

/-! ## Characters in their places -/

/-- Capitals that are not the upper case of their small letters, with those. -/
def oddCapitals : List (Char × Char) :=
  [
    ('\u0130', 'i'), ('\u03F4', '\u03B8'), ('\u1E9E', '\u00DF'), ('\u2126', '\u03C9'),
    ('\u212A', 'k'), ('\u212B', '\u00E5')]

/-- The letter of host names whose upper case is the given one, if it is a run's. -/
def smallIn? (c : Char) (r : Nat × Nat × Nat × Int) : Option Char :=
  let n := ((c.toNat : Int) - r.2.2.2).toNat
  if r.1 ≤ n && n ≤ r.2.1 && (n - r.1) % r.2.2.1 == 0 && isLetter (Char.ofNat n) then
    some (Char.ofNat n)
  else none

/-- A letter in the case that host names have. -/
def small (c : Char) : Char :=
  if isAscii c then c.toLower
  else if isLetter c then c
  else ((oddCapitals.lookup c).or (upperRuns.findSome? (smallIn? c))).getD c

/-- Whether no hyphen stands at an end, or two at the third and fourth place. -/
def hyphensFit (label : List Char) : Bool :=
  label.head? != some '-' && label.getLast? != some '-'
    && !((label.drop 2).take 2 == ['-', '-'])

def isGreek (c : Char) : Bool := isBetween 0x370 0x3FF c || isBetween 0x1F00 0x1FFF c

def isHebrew (c : Char) : Bool := isBetween 0x591 0x5F4 c || isBetween 0xFB1D 0xFB4F c

/-- Where letters of Japanese text stand. -/
def japaneseRuns : Runs :=
  [
    (0x3005, 0x3007, 2), (0x3041, 0x3096, 1), (0x309D, 0x309F, 1), (0x30A1, 0x30FA, 1),
    (0x30FD, 0x30FF, 1), (0x31F0, 0x31FF, 1), (0x3400, 0x4DBF, 1), (0x4E00, 0x9FFF, 1),
    (0x20000, 0x323AF, 1)]

def isArabicDigit (c : Char) : Bool := isBetween 0x660 0x669 c

def isExtendedArabicDigit (c : Char) : Bool := isBetween 0x6F0 0x6F9 c

/-- Whether a joiner may stand there: after a virama, and one that parts letters also between letters that
join. Marks between them do not count. -/
def joinerMayStand (before : List Char) (c : Char) (after : List Char) : Bool :=
  (before.head?.any fun b => Composition.classOf b == Composition.viramaClass)
    || (c == '\u200C' && (before.dropWhile isMark).head?.any joinsForward
      && (after.dropWhile isMark).head?.any joinsBackward)

/-- Whether a character may stand between those before it, the nearest first, and those after it. -/
def mayStand (before : List Char) (c : Char) (after : List Char) : Bool :=
  isLetter c ||
  match c with
  | '\u00B7' => before.head? == some 'l' && after.head? == some 'l'
  | '\u0375' => after.head?.any isGreek
  | '\u05F3' | '\u05F4' => before.head?.any isHebrew
  | '\u200C' | '\u200D' => joinerMayStand before c after
  | '\u30FB' => (before ++ after).any japaneseRuns.contains
  | c =>
    if isArabicDigit c then !(before ++ after).any isExtendedArabicDigit
    else isExtendedArabicDigit c && !(before ++ after).any isArabicDigit

/-- Whether each character may stand where it does or is allowed anyway; `before` is what has been seen,
the last first. -/
def allMayStand (allowed : Char → Bool) (before : List Char) : List Char → Bool
  | [] => true
  | c :: rest => (allowed c || mayStand before c rest) && allMayStand allowed (c :: before) rest

/-! ## Directions -/

/-- A digit of the European kind. -/
def isEuropeanDigit (c : Char) : Bool := c.isDigit || isExtendedArabicDigit c

/-- A digit of the Arabic kind. -/
def isArabicNumber (c : Char) : Bool :=
  isArabicDigit c || isBetween 0x10D30 0x10D39 c

/-- Whether a character may stand in a label that is written from right to left. -/
def mayStandLeftward (c : Char) : Bool :=
  isLeftward c || isMark c || isEuropeanDigit c || isArabicNumber c || c == '-'

/-- Whether a label keeps one direction. One from right to left starts with a letter, ends with a letter
or digit, and has digits of one kind. -/
def keepsDirection (label : List Char) : Bool :=
  if label.any fun c => isLeftward c || isArabicNumber c then
    label.head?.any isLeftward && label.all mayStandLeftward
      && !(label.any isEuropeanDigit && label.any isArabicNumber)
      && ((label.reverse.dropWhile isMark).head?).any fun c =>
        isLeftward c || isEuropeanDigit c || isArabicNumber c
  else true

/-! ## Names -/

/-- Whether a label of small letters keeps the rules of internationalized names, once it is composed;
characters that satisfy `allowed` may stand anywhere. -/
def keepsRules (allowed : Char → Bool) (label : List Char) : Bool :=
  !label.isEmpty && hyphensFit label && !label.head?.any isMark && allMayStand allowed [] label
    && keepsDirection label && encodedLength label ≤ labelLimit

/-- Whether a label is one of an internationalized name. The case of letters does not matter. -/
def isLabel (label : List Char) : Bool :=
  let lower := label.map small
  Composition.isComposed lower && keepsRules (fun _ => false) lower

/-- Whether each label beyond ASCII is one of an internationalized name. -/
def foreignLabelsFit (host : List Char) : Bool :=
  (labels host).all fun l => l.all isAscii || isLabel l

/-- Whether a character separates labels in any script. -/
def isDot (c : Char) : Bool := c == '.' || c == '\u3002' || c == '\uFF0E' || c == '\uFF61'

/-- What stands between dots of any script; one dot may end a name. -/
def allLabels (host : List Char) : List (List Char) :=
  let ls := splitWhere isDot host
  if ls.getLast? == some [] then ls.dropLast else ls

/-- Characters that a mapping to internationalized names leaves out. -/
def unmapped : Runs :=
  [
    (0xAD, 0xAD, 1), (0x34F, 0x34F, 1), (0x180B, 0x180D, 1), (0x180F, 0x180F, 1), (0x200B, 0x200B, 1),
    (0x2060, 0x2060, 1), (0x2064, 0x2064, 1), (0xFE00, 0xFE0F, 1), (0xFEFF, 0xFEFF, 1),
    (0x1BCA0, 0x1BCA3, 1), (0xE0100, 0xE01EF, 1)]

/-- The most characters of a name. -/
def nameLimit : Nat := 253

/-- Whether a name can be made an internationalized one. A label that is encoded already is taken as it
is. -/
def isInternational (host : List Char) : Bool :=
  let name := (host.filter fun c => !unmapped.contains c).map small
  let ls := allLabels name
  !name.isEmpty
    && (ls.all fun l =>
      keepsRules isMapped l || (l.all isAscii && encodedStart.isPrefixOf l && l.length ≤ labelLimit))
    && (ls.map fun l => encodedLength l + 1).foldr (· + ·) 0 ≤ nameLimit + 1

/-- Whether each ASCII label has from one to sixty-three characters; the last one may have none. -/
def labelsFit (host : List Char) : Bool :=
  ((labels host).all fun l => !l.all isAscii || l.length ≤ labelLimit)
    && (labels host).dropLast.all fun l => !l.isEmpty

/-! ## Resolving -/

/-- Characters that leave no trace in a name. -/
def vanishing : Runs :=
  [
    (0xAD, 0xAD, 1), (0x34F, 0x34F, 1), (0x1806, 0x1806, 1), (0x180B, 0x180D, 1), (0x200B, 0x200D, 1),
    (0x2060, 0x2060, 1), (0xFE00, 0xFE0F, 1), (0xFEFF, 0xFEFF, 1)]

/-- Characters that no name may have: controls, private ones, and such as describe other text. -/
def prohibited : Runs :=
  [
    (0x80, 0x9F, 1), (0x6DD, 0x6DD, 1), (0x70F, 0x70F, 1), (0x1680, 0x1680, 1), (0x180E, 0x180E, 1),
    (0x200E, 0x200F, 1), (0x2028, 0x202E, 1), (0x2061, 0x2063, 1), (0x206A, 0x206F, 1),
    (0x2FF0, 0x2FFB, 1), (0xE000, 0xF8FF, 1), (0xFDD0, 0xFDEF, 1), (0xFFF9, 0xFFFF, 1),
    (0x1D173, 0x1D17A, 1), (0xE0001, 0xE0001, 1), (0xE0020, 0xE007F, 1), (0xF0000, 0x10FFFF, 1)]

/-- Whether text in two directions stands apart in a label. -/
def directionsApart (label : List Char) : Bool :=
  if label.any isLeftward then
    label.head?.any isLeftward && label.getLast?.any isLeftward
      && label.all fun c => isLeftward c || isMark c || !isLetter c || isEuropeanDigit c || c == '-'
  else true

/-- Whether the resolver takes a label. -/
def isResolvableLabel (label : List Char) : Bool :=
  let kept := label.filter fun c => !vanishing.contains c
  !kept.isEmpty && !kept.any prohibited.contains && directionsApart kept
    && encodedLength kept ≤ labelLimit

/-- Whether the resolver takes a name. -/
def isResolvable (host : List Char) : Bool :=
  if host.all isAscii then labelsFit host else (allLabels host).all isResolvableLabel

end Restaking.Text.HostName
