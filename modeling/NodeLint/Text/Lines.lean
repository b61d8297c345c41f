/-!
# Lines of a text

A line ends at a line feed, at a carriage return, or at the two together. Form feeds,
vertical tabs and the Unicode separators stay inside their line, so that the numbering agrees
with the positions a syntax tree carries. Documentation blocks use the wider set of breaks,
`blockLines`.
-/

namespace NodeLint.Text

/-- Cut a text at each `sep`; there is always one piece more than there are separators. -/
def pieces (sep : Char) : List Char → List (List Char)
  | [] => [[]]
  | c :: cs =>
    if c = sep then [] :: pieces sep cs
    else match pieces sep cs with
      | [] => [[c]]
      | p :: ps => (c :: p) :: ps

/-- Replace each line ending by one line feed, in one pass from the left. -/
def unifyNewlines : List Char → List Char
  | [] => []
  | '\r' :: '\n' :: cs => '\n' :: unifyNewlines cs
  | '\r' :: cs => '\n' :: unifyNewlines cs
  | c :: cs => c :: unifyNewlines cs

/-- Drop the empty piece that stands behind a final line ending. -/
def dropFinalEmpty (ps : List (List Char)) : List (List Char) :=
  if ps.getLast? = some [] then ps.dropLast else ps

/-- The lines of a text, without their endings. -/
def lines (text : List Char) : List (List Char) :=
  dropFinalEmpty (pieces '\n' (unifyNewlines text))

/-- The lines of a text, without their endings. -/
def linesOf (text : String) : List String :=
  (lines text.toList).map String.ofList

/-- Characters that end a line of a documentation block. -/
def isBlockBreak (c : Char) : Bool :=
  c = '\n' || c = '\r' || c = '\x0b' || c = '\x0c' || c = '\x1c' || c = '\x1d' || c = '\x1e' ||
    c = '\u0085' || c = '\u2028' || c = '\u2029'

/-- Turn each break of a documentation block into a line feed; `\r\n` is one break. -/
def unifyBreaks : List Char → List Char
  | [] => []
  | '\r' :: '\n' :: cs => '\n' :: unifyBreaks cs
  | c :: cs => (if isBlockBreak c then '\n' else c) :: unifyBreaks cs

/-- The lines of a documentation block, without their breaks. -/
def blockLines (text : String) : List String :=
  (dropFinalEmpty (pieces '\n' (unifyBreaks text.toList))).map String.ofList

/-- Join pieces with a separator between each two. -/
def join (sep : String) : List String → String
  | [] => ""
  | [s] => s
  | s :: rest => s ++ sep ++ join sep rest

end NodeLint.Text
