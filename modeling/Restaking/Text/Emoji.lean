import Restaking.Text.CharSet

/-!
# Emoji

A picture in a text may take several characters: the two letters of a region for its flag, a key, or
pictures put together by joiners. Only sequences that are recommended for interchange count. They are read
without the selectors that ask for a coloured form. A tone of skin is an emoji of its own, so that a base
with a tone reads as two unless a joiner follows.
-/
namespace Restaking.Text.Emoji

/-- Where single characters stand that are emoji of their own, beyond ASCII. -/
def emojiRuns : Runs :=
  [
    (0xA9, 0xA9, 1), (0xAE, 0xAE, 1), (0x2194, 0x2199, 1), (0x21A9, 0x21AA, 1),
    (0x231A, 0x231B, 1), (0x2328, 0x2328, 1), (0x23CF, 0x23CF, 1), (0x23E9, 0x23F3, 1),
    (0x23F8, 0x23FA, 1), (0x25AA, 0x25AB, 1), (0x25B6, 0x25B6, 1), (0x25C0, 0x25C0, 1),
    (0x25FB, 0x25FE, 1), (0x2600, 0x2604, 1), (0x260E, 0x260E, 1), (0x2611, 0x2611, 1),
    (0x2614, 0x2615, 1), (0x2618, 0x2618, 1), (0x261D, 0x261D, 1), (0x2620, 0x2620, 1),
    (0x2622, 0x2623, 1), (0x2626, 0x2626, 1), (0x262A, 0x262A, 1), (0x262E, 0x262F, 1),
    (0x2638, 0x263A, 1), (0x2640, 0x2640, 1), (0x2642, 0x2642, 1), (0x2648, 0x2653, 1),
    (0x265F, 0x2660, 1), (0x2663, 0x2663, 1), (0x2665, 0x2666, 1), (0x2668, 0x2668, 1),
    (0x267B, 0x267B, 1), (0x267E, 0x267F, 1), (0x2692, 0x2697, 1), (0x2699, 0x2699, 1),
    (0x269B, 0x269C, 1), (0x26A0, 0x26A1, 1), (0x26A7, 0x26A7, 1), (0x26AA, 0x26AB, 1),
    (0x26B0, 0x26B1, 1), (0x26BD, 0x26BE, 1), (0x26C4, 0x26C5, 1), (0x26C8, 0x26C8, 1),
    (0x26CE, 0x26CF, 1), (0x26D1, 0x26D1, 1), (0x26D3, 0x26D4, 1), (0x26E9, 0x26EA, 1),
    (0x26F0, 0x26F5, 1), (0x26F7, 0x26FA, 1), (0x26FD, 0x26FD, 1), (0x2702, 0x2702, 1),
    (0x2705, 0x2705, 1), (0x2708, 0x270D, 1), (0x270F, 0x270F, 1), (0x2712, 0x2712, 1),
    (0x2714, 0x2714, 1), (0x2716, 0x2716, 1), (0x271D, 0x271D, 1), (0x2721, 0x2721, 1),
    (0x2728, 0x2728, 1), (0x2733, 0x2734, 1), (0x2744, 0x2744, 1), (0x2747, 0x2747, 1),
    (0x274C, 0x274C, 1), (0x274E, 0x274E, 1), (0x2753, 0x2755, 1), (0x2757, 0x2757, 1),
    (0x2763, 0x2764, 1), (0x2795, 0x2797, 1), (0x27A1, 0x27A1, 1), (0x27B0, 0x27B0, 1),
    (0x27BF, 0x27BF, 1), (0x2934, 0x2935, 1), (0x2B05, 0x2B07, 1), (0x2B1B, 0x2B1C, 1),
    (0x2B50, 0x2B50, 1), (0x2B55, 0x2B55, 1), (0x3030, 0x3030, 1), (0x303D, 0x303D, 1),
    (0x1F004, 0x1F004, 1), (0x1F0CF, 0x1F0CF, 1), (0x1F170, 0x1F171, 1), (0x1F17E, 0x1F17F, 1),
    (0x1F18E, 0x1F18E, 1), (0x1F191, 0x1F19A, 1), (0x1F300, 0x1F321, 1), (0x1F324, 0x1F393, 1),
    (0x1F396, 0x1F397, 1), (0x1F399, 0x1F39B, 1), (0x1F39E, 0x1F3F0, 1), (0x1F3F3, 0x1F3F5, 1),
    (0x1F3F7, 0x1F4FD, 1), (0x1F4FF, 0x1F53D, 1), (0x1F549, 0x1F54E, 1), (0x1F550, 0x1F567, 1),
    (0x1F56F, 0x1F570, 1), (0x1F573, 0x1F57A, 1), (0x1F587, 0x1F587, 1), (0x1F58A, 0x1F58D, 1),
    (0x1F590, 0x1F590, 1), (0x1F595, 0x1F596, 1), (0x1F5A4, 0x1F5A5, 1), (0x1F5A8, 0x1F5A8, 1),
    (0x1F5B1, 0x1F5B2, 1), (0x1F5BC, 0x1F5BC, 1), (0x1F5C2, 0x1F5C4, 1), (0x1F5D1, 0x1F5D3, 1),
    (0x1F5DC, 0x1F5DE, 1), (0x1F5E1, 0x1F5E1, 1), (0x1F5E3, 0x1F5E3, 1), (0x1F5E8, 0x1F5E8, 1),
    (0x1F5EF, 0x1F5EF, 1), (0x1F5F3, 0x1F5F3, 1), (0x1F5FA, 0x1F64F, 1), (0x1F680, 0x1F6C5, 1),
    (0x1F6CB, 0x1F6D2, 1), (0x1F6D5, 0x1F6D7, 1), (0x1F6DC, 0x1F6E5, 1), (0x1F6E9, 0x1F6E9, 1),
    (0x1F6EB, 0x1F6EC, 1), (0x1F6F0, 0x1F6F0, 1), (0x1F6F3, 0x1F6FC, 1), (0x1F7E0, 0x1F7EB, 1),
    (0x1F7F0, 0x1F7F0, 1), (0x1F90C, 0x1F93A, 1), (0x1F93C, 0x1F945, 1), (0x1F947, 0x1F9FF, 1),
    (0x1FA70, 0x1FA7C, 1), (0x1FA80, 0x1FA88, 1), (0x1FA90, 0x1FABD, 1), (0x1FABF, 0x1FAC5, 1),
    (0x1FACE, 0x1FADB, 1), (0x1FAE0, 0x1FAE8, 1), (0x1FAF0, 0x1FAF8, 1)]
/-- Whether a character is an emoji of its own. -/
def isSingle (c : Char) : Bool := emojiRuns.contains c

/-- Joins pictures. -/
def joiner : Char := '\u200D'

/-- Whether a character is a tone of skin. -/
def isTone (c : Char) : Bool := isBetween 0x1F3FB 0x1F3FF c

/-! ## Flags and keys -/

/-- The letter that a regional indicator stands for. -/
def indicated? (c : Char) : Option Char :=
  if isBetween 0x1F1E6 0x1F1FF c then some (Char.ofNat (c.toNat - 0x1F1E6 + 65)) else none

/-- The regions that have flags: second letters by the first one. -/
def regions : List (Char × String) :=
  [
    ('A', "CDEFGILMOQRSTUWXZ"), ('B', "ABDEFGHIJLMNOQRSTVWYZ"), ('C', "ACDFGHIKLMNOPRUVWXYZ"),
    ('D', "EGJKMOZ"), ('E', "ACEGHRSTU"), ('F', "IJKMOR"), ('G', "ABDEFGHILMNPQRSTUWY"),
    ('H', "KMNRTU"), ('I', "CDELMNOQRST"), ('J', "EMOP"), ('K', "EGHIMNPRWYZ"),
    ('L', "ABCIKRSTUVY"), ('M', "ACDEFGHKLMNOPQRSTUVWXYZ"), ('N', "ACEFGILOPRUZ"), ('O', "M"),
    ('P', "AEFGHKLMNRSTWY"), ('Q', "A"), ('R', "EOSUW"), ('S', "ABCDEGHIJKLMNORSTVXYZ"),
    ('T', "ACDFGHJKLMNORTVWZ"), ('U', "AGMNSYZ"), ('V', "ACEGINU"), ('W', "FS"), ('X', "K"),
    ('Y', "ET"), ('Z', "AMW")]

/-- Whether two letters name a region that has a flag. -/
def isRegion (a b : Char) : Bool := ((regions.lookup a).map fun s => s.toList.contains b).getD false

/-- The letters of the divisions that have flags. -/
def divisions : List String := ["gbeng", "gbsct", "gbwls"]

/-- The tags that spell a division after a black flag, with the one that ends them. -/
def tags (division : String) : List Char :=
  division.toList.map (fun c => Char.ofNat (c.toNat + 0xE0000)) ++ [Char.ofNat 0xE007F]

/-- What follows the flag of a division, if a text after a black flag goes on with one. -/
def afterDivision? (cs : List Char) : Option (List Char) :=
  (divisions.find? fun d => (tags d).isPrefixOf cs).map fun d => cs.drop (tags d).length

/-- Whether a character labels a key. -/
def isKey (c : Char) : Bool := c.isDigit || c == '#' || c == '*'

/-! ## Joined pictures -/

/-- A picture between joiners, perhaps with a tone. -/
structure Part where
  base : Char
  tone : Option Char
  deriving DecidableEq

/-- The pictures at the start of a text that joiners hold together, each with what follows it. -/
def parts : List Char → List (Part × List Char)
  | [] => []
  | [c] => [(⟨c, none⟩, [])]
  | c :: d :: rest =>
    if isTone d then
      match rest with
      | [] => [(⟨c, some d⟩, [])]
      | j :: more => (⟨c, some d⟩, rest) :: if j == joiner then parts more else []
    else (⟨c, none⟩, d :: rest) :: if d == joiner then parts rest else []

def man : Char := '👨'
def woman : Char := '👩'
def person : Char := '🧑'
def heart : Char := '❤'
def rightward : Char := '➡'

def isManOrWoman (c : Char) : Bool := c == man || c == woman

def isAdult (c : Char) : Bool := isManOrWoman c || c == person

/-- The signs for a woman and a man. -/
def isGender (c : Char) : Bool := c == '♀' || c == '♂'

/-- What shows a profession, a way to get about, or hair. -/
def attributes : List Char := "⚕⚖✈🌾🍳🍼🎓🎤🎨🏫🏭💻💼🔧🔬🚀🚒🦯🦼🦽🦰🦱🦲🦳".toList

/-- Ways to get about, which may have a direction. -/
def aids : List Char := "🦯🦼🦽".toList

/-- Pictures of people that a sign of gender may follow, with a tone or without. -/
def people : List Char :=
  "🏃🏄🏊🏋🏌👮👰👱👳👷💁💂💆💇🕵🙅🙆🙇🙋🙍🙎🚣🚴🚵🚶🤦🤵🤷🤸🤹🤽🤾🦸🦹🧍🧎🧏🧔🧖🧗🧘🧙🧚🧛🧜🧝⛹".toList

/-- Pictures of people that a sign of gender may follow, without a tone. -/
def toneless : List Char := "👯🤼🧞🧟".toList

/-- People on the move, who may have a direction. -/
def movers : List Char := "🏃🚶🧎".toList

/-- Pairs of pictures that are one together, none of them with a tone. -/
def pairs : List (Char × Char) :=
  [
    ('👁', '🗨'), ('🏳', '🌈'), ('🏳', '⚧'), ('🏴', '☠'), ('🐕', '🦺'), ('🐈', '⬛'), ('🐦', '⬛'),
    ('🐦', '🔥'), ('🐻', '❄'), ('😮', '💨'), ('😵', '💫'), ('😶', '🌫'), ('❤', '🔥'), ('❤', '🩹'),
    ('🍋', '🟩'), ('🍄', '🟫'), ('⛓', '💥'), ('🙂', '↔'), ('🙂', '↕')]

/-- Whether two pictures are parents together. -/
def areParents (a b : Char) : Bool := a == man && isManOrWoman b || a == woman && b == woman

/-- Whether pictures are one or two children, a girl before a boy. -/
def areChildren : List Char → Bool
  | [x] => x == '👦' || x == '👧'
  | [x, y] => x == '👧' && (y == '👦' || y == '👧') || x == '👦' && y == '👦'
  | _ => false

/-- Families whose people are neither men nor women. -/
def neutralFamilies : List (List Char) :=
  [
    [person, '🧒'], [person, '🧒', '🧒'], [person, person, '🧒'], [person, person, '🧒', '🧒']]

/-- Whether pictures without tones are one or two parents and one or two children. -/
def isFamily (cs : List Char) : Bool :=
  neutralFamilies.contains cs ||
  match cs with
  | a :: b :: rest =>
    isManOrWoman a && areChildren (b :: rest) || areParents a b && areChildren rest
  | _ => false

/-- Whether both pictures have a tone or none has. -/
def tonesAgree (a b : Part) : Bool := a.tone.isSome == b.tone.isSome

/-- Whether both pictures have tones, which differ. -/
def tonesDiffer (a b : Part) : Bool := a.tone.isSome && b.tone.isSome && a.tone != b.tone

/-- Whether two people may be joined by a heart. -/
def isCouple (a b : Part) : Bool :=
  if a.base == person then b.base == person && tonesDiffer a b
  else tonesAgree a b && (a.base == woman && isManOrWoman b.base || a.base == man && b.base == man)

/-- Whether two people may hold hands. -/
def holdHands (a b : Part) : Bool :=
  if a.base == person then b.base == person && tonesAgree a b
  else tonesDiffer a b && (a.base == woman && isManOrWoman b.base || a.base == man && b.base == man)

/-- Whether pictures are one when joined. -/
def isJoined (ps : List Part) : Bool :=
  let plain := fun (p : Part) => p.tone.isNone
  (ps.all plain && isFamily (ps.map (·.base))) ||
  match ps with
  | [a, b] =>
    (plain b && isAdult a.base && (attributes.contains b.base || a.base == person && b.base == '🎄'))
      || (plain b && isGender b.base
        && (people.contains a.base || plain a && toneless.contains a.base))
      || (plain b && movers.contains a.base && b.base == rightward)
      || (a.base == '🫱' && b.base == '🫲' && tonesDiffer a b)
      || (plain a && plain b && pairs.contains (a.base, b.base))
  | [a, b, c] =>
    (plain b && plain c && c.base == rightward
        && (isAdult a.base && aids.contains b.base || movers.contains a.base && isGender b.base))
      || (plain b && b.base == heart && isCouple a c)
      || (plain b && b.base == '🤝' && holdHands a c)
  | [a, b, c, d] => plain b && plain c && b.base == heart && c.base == '💋' && isCouple a d
  | _ => false

/-- What follows the longest joined picture of at most `n` of some parts. -/
def afterJoined? (ps : List (Part × List Char)) : Nat → Option (List Char)
  | 0 => none
  | n + 1 =>
    if isJoined ((ps.take (n + 1)).map (·.1)) then (ps[n]?).map (·.2) else afterJoined? ps n

/-! ## Reading -/

/-- What follows the longest emoji at the start of a text, if there is one. -/
def after? (cs : List Char) : Option (List Char) :=
  let ps := parts cs
  match afterJoined? ps ps.length, cs with
  | some rest, _ => some rest
  | none, [] => none
  | none, [c] => if isSingle c then some [] else none
  | none, c :: d :: rest =>
    match indicated? c, indicated? d with
    | some a, some b => if isRegion a b then some rest else none
    | _, _ =>
      if isKey c && d == '\u20E3' then some rest
      else if c == '🏴' && (afterDivision? (d :: rest)).isSome then afterDivision? (d :: rest)
      else if isSingle c then some (d :: rest)
      else none

end Restaking.Text.Emoji
