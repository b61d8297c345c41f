import NodeLint.Text.Blank
import NodeLint.Text.Case
import NodeLint.Text.Lines
import NodeLint.Text.Words

/-!
# Suppression pragmas

A pragma is a comment of the form `# graphpc-lint: ignore[CODES] because: REASON`, or the same
with `ignore-file`. It is looked for line by line, whatever the line is part of. Behind other text
it is inline; on a line of its own it speaks about the statement below. Text behind the bracket
that does not start with `because:` is no reason.
-/

namespace NodeLint

/-- A pragma. The codes are sorted and without repetition. -/
structure Pragma where
  line : Nat
  codes : List String
  reason : Option String
  isFileLevel : Bool
  isInline : Bool
deriving Repr, DecidableEq

namespace Pragma

/-- What follows a word, if the text starts with it. -/
def after? (word : String) (cs : List Char) : Option (List Char) :=
  if word.toList.isPrefixOf cs then some (cs.drop word.toList.length) else none

/-- The parts of a pragma behind its hash sign. -/
structure Parts where
  isFileLevel : Bool
  codes : List Char
  tail : List Char
deriving Repr, DecidableEq

/-- Whether nothing but one line feed may follow. -/
def endsLine (cs : List Char) : Bool := cs = [] || cs = ['\n']

/-- The bracketed codes and what stands behind them. -/
def bracketed? (isFileLevel : Bool) : List Char → Option Parts
  | '[' :: cs =>
    let codes := cs.takeWhile (· ≠ ']')
    match codes, cs.dropWhile (· ≠ ']') with
    | _ :: _, ']' :: tail =>
      if endsLine (tail.dropWhile (· ≠ '\n')) then
        some ⟨isFileLevel, codes, tail.takeWhile (· ≠ '\n')⟩
      else none
    | _, _ => none
  | _ => none

/-- The parts of a pragma, if the text behind a hash sign is one. -/
def parts? (cs : List Char) : Option Parts := do
  let cs ← after? "graphpc-lint:" (cs.dropWhile Text.isBlank)
  let cs ← after? "ignore" (cs.dropWhile Text.isBlank)
  match after? "-file" cs with
  | some cs => bracketed? true cs
  | none => bracketed? false cs

/-- The first pragma of a line: the text before its hash sign, and its parts. -/
def search? : List Char → Option (List Char × Parts)
  | [] => none
  | c :: cs =>
    match if c = '#' then parts? cs else none with
    | some p => some ([], p)
    | none => (search? cs).map fun (pre, p) => (c :: pre, p)

/-- The codes that a bracket names. -/
def readCodes (cs : List Char) : List String :=
  Text.sortedSet (((Text.pieces ',' cs).map Text.trim).filterMap fun piece =>
    if piece = [] then none else some (Text.upper (String.ofList piece)))

/-- The reason that the text behind the bracket gives. -/
def readReason (tail : List Char) : Option String :=
  match after? "because:" (tail.dropWhile Text.isBlank) with
  | none => none
  | some cs =>
    let reason := Text.trim cs
    if reason = [] then none else some (String.ofList reason)

/-- The pragma of a line, if it holds one. -/
def ofLine? (line : Nat) (text : String) : Option Pragma :=
  (search? text.toList).map fun (pre, p) =>
    { line := line
      codes := readCodes p.codes
      reason := readReason p.tail
      isFileLevel := p.isFileLevel
      isInline := !p.isFileLevel && Text.trim pre ≠ [] }

/-- The pragmas of lines that are numbered from `first` on. -/
def readFrom (first : Nat) : List String → List Pragma
  | [] => []
  | text :: rest => (ofLine? first text).toList ++ readFrom (first + 1) rest

/-- The pragmas of a file, by its lines. -/
def read (lines : List String) : List Pragma := readFrom 1 lines

end Pragma
end NodeLint
