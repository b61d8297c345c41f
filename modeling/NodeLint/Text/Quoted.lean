import NodeLint.Text.Lines
import NodeLint.Text.Printable

/-!
# Quoted text

Messages show a text between quotes: single quotes, unless the text holds a single quote and no
double quote. The quote in use and the backslash are escaped, and so is every character that is
not printable.
-/

namespace NodeLint.Text

/-- A small hexadecimal digit. -/
def hexDigit (n : Nat) : Char :=
  if n < 10 then Char.ofNat ('0'.toNat + n) else Char.ofNat ('a'.toNat + (n - 10))

/-- The last `width` hexadecimal digits of a number. -/
def hexPadded : (width : Nat) → Nat → List Char
  | 0, _ => []
  | w + 1, n => hexPadded w (n / 16) ++ [hexDigit (n % 16)]

/-- The escape of a character by its number, as short as the number allows. -/
def numericEscape (c : Char) : List Char :=
  let n := c.toNat
  if n < 0x100 then '\\' :: 'x' :: hexPadded 2 n
  else if n < 0x10000 then '\\' :: 'u' :: hexPadded 4 n
  else '\\' :: 'U' :: hexPadded 8 n

/-- One character of a quoted text. -/
def quoteChar (mark : Char) (c : Char) : List Char :=
  if c = mark || c = '\\' then ['\\', c]
  else if c = '\n' then ['\\', 'n']
  else if c = '\r' then ['\\', 'r']
  else if c = '\t' then ['\\', 't']
  else if isPrintable c then [c]
  else numericEscape c

/-- The quote that a text is shown between. -/
def quoteMark (cs : List Char) : Char :=
  if cs.contains '\'' && !cs.contains '"' then '"' else '\''

/-- A text as messages show it. -/
def quoted (s : String) : String :=
  let mark := quoteMark s.toList
  String.ofList (mark :: s.toList.flatMap (quoteChar mark) ++ [mark])

/-- A list of texts as messages show it. -/
def quotedList (ss : List String) : String :=
  "[" ++ join ", " (ss.map quoted) ++ "]"

/-- A key path as messages show it; a path of one key keeps a comma. -/
def quotedTuple : List String → String
  | [s] => "(" ++ quoted s ++ ",)"
  | ss => "(" ++ join ", " (ss.map quoted) ++ ")"

end NodeLint.Text
