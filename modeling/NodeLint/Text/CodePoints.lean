import NodeLint.Text.Lines

/-!
# Tables of code points

The character classes and character maps of this library are written down as text. Items are
hexadecimal and separated by spaces and line breaks. In a class, `AA` is one code point and `C0-D6`
a range. In a map, `B5>39C` sends one code point to another, `E0-F6>C0` sends a range to the range
that starts at the target, `101~12F>100` does so for every second code point of the range, and
`DF>53+53` sends one code point to several.
-/

namespace NodeLint.Text

/-- The value of a hexadecimal digit written in capitals, or of a decimal digit. -/
def hexDigitValue (c : Char) : Nat :=
  if c.isDigit then c.toNat - '0'.toNat else c.toNat - 'A'.toNat + 10

/-- The value of a hexadecimal numeral. -/
def hexValue (cs : List Char) : Nat :=
  cs.foldl (fun n c => 16 * n + hexDigitValue c) 0

/-- The two sides of the first `sep`, if there is one. -/
def splitFirst? (sep : Char) : List Char → Option (List Char × List Char)
  | [] => none
  | c :: cs =>
    if c = sep then some ([], cs)
    else (splitFirst? sep cs).map fun (a, b) => (c :: a, b)

/-- An inclusive range of code points. -/
structure CodeRange where
  first : Nat
  last : Nat
deriving Repr, DecidableEq

namespace CodeRange

def contains (r : CodeRange) (n : Nat) : Bool :=
  r.first ≤ n && n ≤ r.last

/-- Read `AA` or `C0-D6`. -/
def read (cs : List Char) : CodeRange :=
  match splitFirst? '-' cs with
  | some (a, b) => ⟨hexValue a, hexValue b⟩
  | none => ⟨hexValue cs, hexValue cs⟩

end CodeRange

/-- The items of a table. -/
def tableItems (table : String) : List (List Char) :=
  ((pieces '\n' table.toList).flatMap (pieces ' ')).filter (· ≠ [])

/-- A class of characters. -/
abbrev CodeSet := List CodeRange

/-- Read a class of characters. -/
def CodeSet.read (table : String) : CodeSet :=
  (tableItems table).map CodeRange.read

def CodeSet.contains (s : CodeSet) (c : Char) : Bool :=
  s.any fun r => r.contains c.toNat

/-- One line of a character map: the code points of `source`, every `step`-th of them, go to the
sequence `target`, whose first member moves along with the source. -/
structure CodeRun where
  source : CodeRange
  step : Nat
  target : List Nat
deriving Repr

namespace CodeRun

/-- Read one item of a character map. -/
def read (cs : List Char) : CodeRun :=
  let (lhs, rhs) := (splitFirst? '>' cs).getD (cs, [])
  let target := (pieces '+' rhs).map hexValue
  match splitFirst? '~' lhs with
  | some (a, b) => ⟨⟨hexValue a, hexValue b⟩, 2, target⟩
  | none => ⟨CodeRange.read lhs, 1, target⟩

/-- The image of a code point under a run that holds it. -/
def image? (r : CodeRun) (n : Nat) : Option (List Nat) :=
  if r.source.contains n && (n - r.source.first) % r.step = 0 then
    match r.target with
    | [] => none
    | t :: ts => some ((t + (n - r.source.first)) :: ts)
  else none

end CodeRun

/-- A map from characters to sequences of characters. -/
abbrev CodeMap := List CodeRun

/-- Read a character map. -/
def CodeMap.read (table : String) : CodeMap :=
  (tableItems table).map CodeRun.read

/-- The image of a character, when the map moves it. -/
def CodeMap.image? (m : CodeMap) (c : Char) : Option (List Char) :=
  (m.findSome? fun r => r.image? c.toNat).map fun ns => ns.map Char.ofNat

end NodeLint.Text
