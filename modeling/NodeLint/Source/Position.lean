import NodeLint.Text.Lines

/-!
# Positions in a source text

Lines count from one. Columns inside the tree are offsets in UTF-8 bytes and count from zero;
the columns of a reported fault count characters and start at one.
-/

namespace NodeLint.Source

/-- The stretch of text that a token or a piece of the tree covers. -/
structure Span where
  line : Nat
  column : Nat
  endLine : Nat
  endColumn : Nat
deriving Repr, DecidableEq

/-- Why a text is not a program: the place, and what is wrong there. -/
structure Fault where
  line : Nat
  column : Nat
  message : String
deriving Repr, DecidableEq

/-- How many bytes a text takes. -/
def byteLength (cs : List Char) : Nat :=
  cs.foldl (fun n c => n + c.utf8Size) 0

/-- How many characters start within the first `bytes` bytes. Behind the end of the text there
is room for one more. -/
def charsWithin : List Char → (bytes : Nat) → Nat
  | _, 0 => 0
  | [], _ + 1 => 1
  | c :: cs, bytes => 1 + charsWithin cs (bytes - c.utf8Size)

/-- A text as the tokens are read from it: one line feed ends each line, and the last line has
one too. -/
structure SourceText where
  chars : List Char
  /-- The lines with their line feeds. -/
  lines : Array (List Char)

/-- End the text with a line feed. A text that ends in carriage return and line feed gets one
more line, an empty one. -/
def terminated (source : List Char) : List Char :=
  let unified := Text.unifyNewlines source
  match source.reverse with
  | '\n' :: '\r' :: _ => unified ++ ['\n']
  | '\n' :: _ => unified
  | '\r' :: _ => unified
  | _ => unified ++ ['\n']

namespace SourceText

/-- Prepare a source text for reading. -/
def ofSource (source : List Char) : SourceText :=
  let chars := terminated source
  ⟨chars, (((Text.pieces '\n' chars).dropLast).map (· ++ ['\n'])).toArray⟩

/-- The lines from `first` to `last`, joined. -/
def stretch (t : SourceText) (first last : Nat) : List Char :=
  (t.lines.extract (first - 1) last).toList.flatten

/-- The reported column of a byte offset in line `line`, while the reader holds the lines from
`chunk` to `current`. A line that the reader still holds is counted together with the lines read
along with it. -/
def column (t : SourceText) (chunk current line bytes : Nat) : Nat :=
  if current ≤ line then charsWithin (t.stretch chunk current) bytes
  else charsWithin ((t.lines.getD (line - 1) []).dropLast) bytes

end SourceText
end NodeLint.Source
