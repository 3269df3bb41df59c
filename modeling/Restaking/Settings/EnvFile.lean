import Restaking.Text.Blank

/-!
# Environment files

A file of lines `NAME=value`, perhaps after a byte order mark. The word `export` may come first, blanks
may stand around the equals sign and at the end, and a comment runs from a `#` to the end of the line; in
a bare value only a `#` after a blank starts one. A value is bare or quoted; quoted ones may run over
several lines. Double quotes know the usual escapes, single quotes only that of the backslash and of the
quote, and a quote after a backslash never closes. A line that is none of this is passed over. A name
without an equals sign is unset. Within a value, a reference in braces after a dollar sign stands for an
earlier value of the file or for a variable of the environment.
-/
namespace Restaking.EnvFile

open Restaking.Text

def isLineEnd (c : Char) : Bool := c == '\n' || c == '\r'

/-- A blank within a line. -/
def isInline (c : Char) : Bool := isBlank c && !isLineEnd c

def apostrophe : Char := '\x27'
def quotation : Char := '\x22'
def backslash : Char := '\x5c'

/-- What follows the current line. -/
def skipLine (cs : List Char) : List Char := (cs.dropWhile fun c => !isLineEnd c).drop 1

/-- Drops the word that marks a name for other programs. -/
def dropExport (cs : List Char) : List Char :=
  let word := "export".toList
  let rest := cs.drop word.length
  if word.isPrefixOf cs && (rest.takeWhile isInline).length > 0 then rest.dropWhile isInline else cs

/-- A name, bare or between single quotes; before a comment there is none. -/
def readName? (cs : List Char) : Option (Option (List Char) × List Char) :=
  match cs with
  | [] => none
  | c :: rest =>
    if c == '#' then some (none, cs)
    else if c == apostrophe then
      let name := rest.takeWhile (· != apostrophe)
      match rest.dropWhile (· != apostrophe) with
      | _ :: after => if name.isEmpty then none else some (some name, after)
      | [] => none
    else
      let isNameChar (c : Char) : Bool := c != '=' && c != '#' && !isBlank c
      let name := cs.takeWhile isNameChar
      if name.isEmpty then none else some (some name, cs.dropWhile isNameChar)

/-- The text up to the closing quote `mark`, and what follows. A character after a backslash does not
close. -/
def readQuoted? (mark : Char) : List Char → Option (List Char × List Char)
  | [] => none
  | c :: rest =>
    if c == mark then some ([], rest)
    else if c == backslash then
      match rest with
      | [] => none
      | d :: more => (readQuoted? mark more).map fun r => (c :: d :: r.1, r.2)
    else (readQuoted? mark rest).map fun r => (c :: r.1, r.2)

/-- Replaces each backslash and letter for which there is an escape. -/
def unescape (escape? : Char → Option Char) : List Char → List Char
  | [] => []
  | [c] => [c]
  | c :: d :: rest =>
    match (if c == backslash then escape? d else none) with
    | some e => e :: unescape escape? rest
    | none => c :: unescape escape? (d :: rest)

/-- The escapes between single quotes. -/
def singleEscape? (c : Char) : Option Char :=
  if c == backslash || c == apostrophe then some c else none

/-- The escapes between double quotes. -/
def doubleEscape? (c : Char) : Option Char :=
  if c == backslash || c == apostrophe || c == quotation then some c
  else
    [('a', '\x07'), ('b', '\x08'), ('f', '\x0c'), ('n', '\n'), ('r', '\r'), ('t', '\t'),
     ('v', '\x0b')].lookup c

/-- A bare value ends before blanks that a comment follows. -/
def beforeComment : List Char → List Char
  | [] => []
  | c :: rest =>
    if isBlank c && (rest.dropWhile isBlank).head? == some '#' then [] else c :: beforeComment rest

/-- A value, at the first character after the equals sign. -/
def readValue? (cs : List Char) : Option (List Char × List Char) :=
  match cs.dropWhile isInline with
  | [] => some ([], [])
  | c :: rest =>
    if c == apostrophe then
      (readQuoted? apostrophe rest).map fun r => (unescape singleEscape? r.1, r.2)
    else if c == quotation then
      (readQuoted? quotation rest).map fun r => (unescape doubleEscape? r.1, r.2)
    else
      some (trim (beforeComment (cs.takeWhile fun c => !isLineEnd c)),
        cs.dropWhile fun c => !isLineEnd c)

/-- What follows the line, if only blanks and a comment are left of it. -/
def endLine? (cs : List Char) : Option (List Char) :=
  match cs.dropWhile isInline with
  | [] => some []
  | c :: rest =>
    if c == '#' then some (skipLine rest)
    else if isLineEnd c then some rest
    else none

/-- A name and its value; nothing is its value if it has no equals sign. -/
abbrev Entry := String × Option String

/-- One entry or comment, or a line to pass over, and what follows. -/
def readEntry (cs : List Char) : Option Entry × List Char :=
  let start := dropExport cs
  match readName? start with
  | none => (none, skipLine start)
  | some (name, afterName) =>
    let rest := afterName.dropWhile isInline
    let assigned : Option (Option (List Char) × List Char) :=
      match rest with
      | '=' :: r => (readValue? r).map fun v => (some v.1, v.2)
      | r => some (none, r)
    match assigned with
    | none => (none, skipLine rest)
    | some (value, afterValue) =>
      match endLine? afterValue with
      | none => (none, skipLine afterValue)
      | some next =>
        (name.map fun n => (String.ofList n, value.map String.ofList), next)

/-- All entries of a text, in order. -/
def readEntries (cs : List Char) : List Entry :=
  match cs.dropWhile isBlank with
  | [] => []
  | c :: rest =>
    let (entry, next) := readEntry (c :: rest)
    if _shorter : next.length < cs.length then entry.toList ++ readEntries next else entry.toList
termination_by cs.length

/-- Line ends of every platform as one character. -/
def unifyLines : List Char → List Char
  | [] => []
  | '\r' :: '\n' :: rest => '\n' :: unifyLines rest
  | c :: rest => (if c == '\r' then '\n' else c) :: unifyLines rest

/-- The text without a byte order mark in front. -/
def dropOrderMark : List Char → List Char
  | '\ufeff' :: rest => rest
  | cs => cs

/-- A reference, with its default if it has one and its length, where one starts. -/
def reference? : List Char → Option (String × String × Nat)
  | '$' :: '\x7b' :: rest =>
    let name := rest.takeWhile fun c => c != '\x7d' && c != ':'
    match rest.drop name.length with
    | '\x7d' :: _ => some (String.ofList name, "", name.length + 3)
    | ':' :: '-' :: more =>
      let fallback := more.takeWhile (· != '\x7d')
      if fallback.length < more.length then
        some (String.ofList name, String.ofList fallback, name.length + fallback.length + 5)
      else none
    | _ => none
  | _ => none

/-- Replaces references, after the first `skip` characters, by what `value` gives for a name and a
default. -/
def expand (value : String → String → String) : Nat → List Char → List Char
  | _, [] => []
  | skip + 1, _ :: rest => expand value skip rest
  | 0, c :: rest =>
    match reference? (c :: rest) with
    | some (name, fallback, length) =>
      (value name fallback).toList ++ expand value (length - 1) rest
    | none => c :: expand value 0 rest

/-- Sets a name, in place if it is there. -/
def put (name : String) (value : Option String) : List Entry → List Entry
  | [] => [(name, value)]
  | (n, v) :: rest => if n == name then (n, value) :: rest else (n, v) :: put name value rest

/-- The value of a reference: from the file, else from the environment, else the default. -/
def referenced (environment : List (String × String)) (known : List Entry) (name fallback : String) :
    String :=
  match known.lookup name with
  | some value => value.getD ""
  | none => (environment.lookup name).getD fallback

/-- The entries of a file with references replaced; of two for one name the later one holds. -/
def entries (environment : List (String × String)) (text : String) : List Entry :=
  (readEntries (unifyLines (dropOrderMark text.toList))).foldl
    (fun known entry =>
      put entry.1
        (entry.2.map fun v => String.ofList (expand (referenced environment known) 0 v.toList)) known)
    []

end Restaking.EnvFile
