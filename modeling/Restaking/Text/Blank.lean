/-!
# Blank characters

Two sets of characters that readers skip: the white space of the Unicode property, and the wider
set that trimming removes, which adds the four separators U+001C to U+001F. Trimming works on lists
of characters; what it leaves neither starts nor ends with a blank character.
-/
namespace Restaking.Text

/-- The characters of the Unicode property `White_Space`. -/
def isSpace (c : Char) : Bool :=
  let n := c.toNat
  (0x09 ≤ n && n ≤ 0x0D) || n == 0x20 || n == 0x85 || n == 0xA0 || n == 0x1680
    || (0x2000 ≤ n && n ≤ 0x200A) || n == 0x2028 || n == 0x2029 || n == 0x202F || n == 0x205F
    || n == 0x3000

/-- White space and the four information separators. -/
def isBlank (c : Char) : Bool :=
  isSpace c || (0x1C ≤ c.toNat && c.toNat ≤ 0x1F)

/-- Removes what satisfies `p` from both ends. -/
def trimWhere (p : Char → Bool) (cs : List Char) : List Char :=
  (((cs.dropWhile p).reverse).dropWhile p).reverse

/-- Removes blank characters from both ends. -/
def trim (cs : List Char) : List Char := trimWhere isBlank cs

end Restaking.Text
