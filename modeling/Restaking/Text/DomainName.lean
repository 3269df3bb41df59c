import Restaking.Text.Blank
import Restaking.Text.Emoji
import Restaking.Text.Hex
import Restaking.Text.Label
import Restaking.Text.NameChar

/-!
# Names of accounts

A name service knows accounts by labels with dots between them. A label is read from its start, the
longest emoji at a time or else a character that a label may have, without the selectors of coloured
forms. A label of emoji alone is decided by that; one with other characters would have to be validated as
a word, which takes the service. Labels are read in order, and the first one that is more or less than
emoji decides. Blank text is the empty name, and text that is marked as hexadecimal is never a name.
-/
namespace Restaking.Text.DomainName

/-- What a text is as the name of an account. -/
inductive Reading where
  | notName
  /-- A name with a word in it, or with what comes before a fault. -/
  | worded
  /-- A name without words. -/
  | wordless
  deriving DecidableEq, Repr

/-- Asks for the coloured form of the character before it. -/
def selector : Char := '\uFE0F'

/-- Reads a label without selectors, with `fuel` for its characters; `worded` says whether a word was met. -/
def readLabel (worded : Bool) : Nat → List Char → Reading
  | _, [] => if worded then .worded else .wordless
  | 0, _ :: _ => .notName
  | fuel + 1, c :: rest =>
    match Emoji.after? (c :: rest) with
    | some more => readLabel worded fuel more
    | none =>
      if isIgnored c then readLabel worded fuel rest
      else if isNameChar c then readLabel true fuel rest
      else .notName

/-- Reads a label. -/
def Reading.ofLabel (label : List Char) : Reading :=
  let kept := label.filter (· != selector)
  if kept.isEmpty then .notName else readLabel false kept.length kept

/-- What labels are together. -/
def Reading.ofLabels : List (List Char) → Reading
  | [] => .wordless
  | l :: rest =>
    match Reading.ofLabel l with
    | .wordless => ofLabels rest
    | r => r

/-- Whether a text is hexadecimal and marked as such. -/
def isMarkedHex : List Char → Bool
  | '0' :: 'x' :: rest | '0' :: 'X' :: rest => rest.all fun c => (Hex.digit? c).isSome
  | _ => false

/-- Whether a text stands for the empty name: it is blank, or a dot among blanks. -/
def isEmptyName (cs : List Char) : Bool := trim cs == [] || trim cs == ['.']

/-- Reads a text as a name. No label of a name is empty, and nothing is no name. -/
def Reading.ofName (cs : List Char) : Reading :=
  if cs.isEmpty then .notName
  else if isEmptyName cs then .wordless
  else if (labels cs).any List.isEmpty then .notName
  else ofLabels (labels cs)

/-- Reads a text that may be hexadecimal instead. -/
def Reading.ofText (cs : List Char) : Reading :=
  if isMarkedHex cs then .notName else ofName cs

/-- Reads a text as the name of an account below another one. Each label must be a name by itself, and the
labels are read in order. -/
def Reading.ofQualified (cs : List Char) : Reading :=
  match labels cs with
  | [] | [_] => .notName
  | ls => ((ls.map Reading.ofName).find? (· != .wordless)).getD .wordless

end Restaking.Text.DomainName
