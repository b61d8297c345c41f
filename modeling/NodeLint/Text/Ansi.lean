/-!
# Terminal styling

A styled word stands between control sequences: escape, `[`, digits and semicolons or question
marks, one letter. Stripping removes all sequences of that shape from a text.
-/

namespace NodeLint.Text

/-- The character that starts a control sequence. -/
def escape : Char := '\x1b'

/-- Colours of a severity. -/
inductive Colour where
  | red
  | yellow
deriving Repr, DecidableEq

/-- The sequence that switches to a colour. -/
def Colour.code : Colour → String
  | .red => "\x1b[31m"
  | .yellow => "\x1b[33m"

/-- A word in bold and, if given, in a colour, with everything reset after it. -/
def styled (colour : Option Colour) (word : String) : String :=
  (colour.map Colour.code).getD "" ++ "\x1b[1m" ++ word ++ "\x1b[0m"

/-- Whether a character may stand between the bracket and the final letter of a sequence. -/
def isAnsiParameter (c : Char) : Bool :=
  c = ';' || c = '?' || c.isDigit

/-- What follows a control sequence, given the text behind its escape character. -/
def afterSequence? : List Char → Option (List Char)
  | '[' :: cs =>
    match cs.dropWhile isAnsiParameter with
    | c :: rest => if c.isAlpha then some rest else none
    | [] => none
  | _ => none

/-- Remove the control sequences of a text; each step takes at least one character. -/
def stripFrom : (fuel : Nat) → List Char → List Char
  | 0, _ => []
  | _ + 1, [] => []
  | fuel + 1, c :: cs =>
    if c = escape then
      match afterSequence? cs with
      | some rest => stripFrom fuel rest
      | none => c :: stripFrom fuel cs
    else c :: stripFrom fuel cs

/-- A text without its control sequences. -/
def stripAnsi (s : String) : String :=
  String.ofList (stripFrom s.toList.length s.toList)

end NodeLint.Text
