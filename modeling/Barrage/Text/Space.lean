/-!
White space as a property of characters: the line breaks and spaces of every script, not only those
of ASCII. Trimming and the division of a header into its kind and label go by it.
-/

namespace Barrage.Text

/-- The characters with the Unicode property `White_Space`. -/
def isSpace (c : Char) : Bool :=
  let n := c.toNat
  (9 ≤ n && n ≤ 13) || n == 0x20 || n == 0x85 || n == 0xA0 || n == 0x1680 ||
    (0x2000 ≤ n && n ≤ 0x200A) || n == 0x2028 || n == 0x2029 || n == 0x202F || n == 0x205F ||
    n == 0x3000

/-- The text without the trailing characters that satisfy `p`. -/
def trimEndBy (p : Char → Bool) (cs : List Char) : List Char :=
  (cs.reverse.dropWhile p).reverse

def trimEnd (cs : List Char) : List Char := trimEndBy isSpace cs

def trim (cs : List Char) : List Char := trimEnd (cs.dropWhile isSpace)

/-! ### Spaces and tabs -/

/-- The two characters that may stand between the parts of a line. -/
def isBlank (c : Char) : Bool := c == ' ' || c == '\t'

def skipBlanks (cs : List Char) : List Char := cs.dropWhile isBlank

end Barrage.Text
