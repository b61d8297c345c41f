/-!
# Blank characters

Blank are the ASCII control blanks, the information separators `U+001C` to `U+001F`, the next-line
character, and every Unicode space and line separator. Trimming and the pragma grammar use this
one class.
-/

namespace NodeLint.Text

/-- Whether a character counts as white space. -/
def isBlank (c : Char) : Bool :=
  let n := c.toNat
  (9 ≤ n && n ≤ 13) || (28 ≤ n && n ≤ 32) || n = 0x85 || n = 0xA0 || n = 0x1680 ||
    (0x2000 ≤ n && n ≤ 0x200A) || n = 0x2028 || n = 0x2029 || n = 0x202F || n = 0x205F ||
    n = 0x3000

/-- Drop blanks from both ends. -/
def trim (cs : List Char) : List Char :=
  ((cs.dropWhile isBlank).reverse.dropWhile isBlank).reverse

/-- Drop blanks from both ends of a string. -/
def trimmed (s : String) : String :=
  String.ofList (trim s.toList)

end NodeLint.Text
