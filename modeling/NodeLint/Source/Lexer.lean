import NodeLint.Source.Token
import NodeLint.Source.Number
import NodeLint.Text.Letter
import NodeLint.Text.Printable
import NodeLint.Text.Quoted

/-!
# Reading tokens

The reader walks over the characters of a text. At the start of a line it compares the
indentation with the enclosing blocks; elsewhere it skips blanks and comments and takes the
longest token. Inside brackets line ends and indentation mean nothing. Reading stops at the end
of the text or at the first fault.

Indentation is measured twice, with tabs to multiples of eight and with tabs as one blank. A line
on which the two measures disagree about the enclosing block is refused.
-/

namespace NodeLint.Source

/-- The state of the reader: what is left, where it stands (line, byte column, character
column), the first line it holds, the indentation of the open blocks and the open brackets, each
innermost first, and whether a line starts here. -/
structure Reader where
  rest : List Char
  line : Nat
  bytes : Nat
  chars : Nat
  chunk : Nat
  indents : List (Nat × Nat)
  brackets : List Bracket
  lineStart : Bool

namespace Reader

/-- The reader at the start of a text. -/
def start (t : SourceText) : Reader :=
  ⟨t.chars, 1, 0, 0, 1, [], [], true⟩

/-- Move behind one character. The end of the text stays on the last line. -/
def next (r : Reader) : Reader :=
  match r.rest with
  | [] => r
  | ['\n'] => { r with rest := [], bytes := r.bytes + 1, chars := r.chars + 1 }
  | '\n' :: cs => { r with rest := cs, line := r.line + 1, bytes := 0, chars := 0 }
  | c :: cs => { r with rest := cs, bytes := r.bytes + c.utf8Size, chars := r.chars + 1 }

/-- Move behind as many characters as `taken` has. -/
def skip (r : Reader) (taken : List Char) : Reader :=
  taken.foldl (fun r _ => r.next) r

/-- Forget the lines read before the current one. -/
def fresh (r : Reader) : Reader :=
  { r with chunk := r.line }

/-- The token from `r` to `after`. -/
def token (r after : Reader) (kind : TokenKind) (text : List Char) : Token where
  kind := kind
  text := String.ofList text
  span := ⟨r.line, r.bytes, after.line, after.bytes⟩
  depth := after.brackets.length
  cursor := after.bytes
  chunk := after.chunk

/-- A token that stands for no characters. -/
def mark (r : Reader) (kind : TokenKind) : Token := r.token r kind []

end Reader

/-- One step of the reader. -/
inductive Step where
  | emit (tokens : List Token) (next : Reader)
  | stop (tokens : List Token) (fault : Option LexFault)

/-- A fault at the character before the reader. -/
def Reader.urgentFault (r : Reader) (message : String) : LexFault :=
  ⟨⟨r.line, r.chars, message⟩, true, r.brackets⟩

/-- The text ends where it may not: inside brackets, or behind a backslash. -/
def Reader.endFault (t : SourceText) (r : Reader) : LexFault :=
  match r.brackets with
  | b :: _ => ⟨b.neverClosed t r.chunk r.line, false, r.brackets⟩
  | [] =>
    ⟨⟨r.line, t.column r.chunk r.line r.line r.bytes, "unexpected EOF while parsing"⟩, false, []⟩

/-- The reader stands at a backslash: move to the next line, or say why that cannot be. -/
def Reader.continueLine (t : SourceText) (r : Reader) : Except LexFault Reader :=
  match r.rest with
  | _ :: '\n' :: [] => .error (r.next.next.endFault t)
  | _ :: '\n' :: _ => .ok r.next.next
  | _ =>
    let before := if r.chunk < r.line then byteLength (t.stretch r.chunk (r.line - 1)) else 0
    .error ⟨⟨r.line, t.column r.chunk r.line r.line (before + r.bytes + 2),
      "unexpected character after line continuation character"⟩, false, r.brackets⟩

/-! ## Indentation -/

/-- The two measures of an indentation, and the measure of the first continued line if that is
not zero. -/
structure Indentation where
  width : Nat
  narrow : Nat
  continued : Nat

namespace Indentation

/-- The measures of a blank. -/
def add (i : Indentation) (c : Char) : Indentation :=
  if c = ' ' then { i with width := i.width + 1, narrow := i.narrow + 1 }
  else if c = '\t' then { i with width := (i.width / 8 + 1) * 8, narrow := i.narrow + 1 }
  else { i with width := 0, narrow := 0 }

/-- The measures that count: a continued line decides, if it is indented. -/
def levels (i : Indentation) : Nat × Nat :=
  if i.continued = 0 then (i.width, i.narrow) else (i.continued, i.continued)

end Indentation

/-- Measure the indentation of the line the reader stands at. -/
def measure (t : SourceText) :
    List Char → Indentation → Reader → Except LexFault (Indentation × Reader)
  | '\\' :: '\n' :: c :: cs, i, r =>
    let i := if i.continued = 0 then { i with continued := i.width } else i
    measure t (c :: cs) i r.next.next.fresh
  | c :: cs, i, r =>
    if c = ' ' || c = '\t' || c = '\x0c' then measure t cs (i.add c) r.next
    else if c = '\\' then (r.continueLine t).map fun r => (i, r)
    else .ok (i, r)
  | [], i, r => .ok (i, r)

/-- A fault about the indentation of the current line. -/
def Reader.indentFault (r : Reader) (column : Nat) (message : String) : LexFault :=
  ⟨⟨r.line, column, message⟩, false, []⟩

/-- The line mixes tabs and blanks so that its block depends on the width of a tab. -/
def Reader.tabFault (r : Reader) : LexFault :=
  r.indentFault 1 "inconsistent use of tabs and spaces in indentation"

/-- The blocks that are at most as deep as a line of this width. -/
def enclosing (width : Nat) : List (Nat × Nat) → List (Nat × Nat)
  | [] => []
  | (w, n) :: outer => if width < w then enclosing width outer else (w, n) :: outer

/-- The indentation of the innermost of the given blocks. -/
def innermost (indents : List (Nat × Nat)) : Nat × Nat := indents.headD (0, 0)

/-- The most blocks that may be open. -/
def maxBlocks : Nat := 99

/-- Open or close blocks according to the indentation of a line. -/
def layout (t : SourceText) (r : Reader) (levels : Nat × Nat) : Step :=
  let (width, narrow) := levels
  let (w, n) := innermost r.indents
  if width = w then
    if narrow = n then .emit [] { r with lineStart := false } else .stop [] (some r.tabFault)
  else if w < width then
    if r.indents.length ≥ maxBlocks then
      .stop [] (some (r.indentFault 1 "too many levels of indentation"))
    else if narrow ≤ n then .stop [] (some r.tabFault)
    else
      let r := { r with indents := levels :: r.indents, lineStart := false }
      .emit [r.mark .indent] r
  else
    let outer := enclosing width r.indents
    let (w, n) := innermost outer
    if width ≠ w then
      let bytes := byteLength (t.lines.getD (r.line - 1) [])
      .stop [] (some (r.indentFault (t.column r.chunk r.line r.line bytes)
        "unindent does not match any outer indentation level"))
    else if narrow ≠ n then .stop [] (some r.tabFault)
    else
      let closed := r.indents.length - outer.length
      let r := { r with indents := outer, lineStart := false }
      .emit (List.replicate closed (r.mark .dedent)) r

/-- Read the start of a line. A line of blanks or with a comment only is skipped. -/
def readLineStart (t : SourceText) (r : Reader) : Step :=
  match measure t r.rest ⟨0, 0, 0⟩ r with
  | .error fault => .stop [] (some fault)
  | .ok (i, r) =>
    match r.rest with
    | '#' :: _ | '\n' :: _ =>
      let r := r.skip (r.rest.takeWhile (· ≠ '\n'))
      .emit [] r.next.fresh
    | _ => if r.brackets = [] then layout t r i.levels else .emit [] { r with lineStart := false }

/-! ## Names and strings -/

/-- A code point as messages show it, in capitals and with at least four digits. -/
def codeLabel (c : Char) : String :=
  let width := if c.toNat < 0x10000 then 4 else if c.toNat < 0x100000 then 5 else 6
  String.ofList ((Text.hexPadded width c.toNat).map Char.toUpper)

/-- The words for a character that may not stand in a program. -/
def badCharacter (c : Char) : String :=
  if Text.isPrintable c then
    "invalid character '" ++ c.toString ++ "' (U+" ++ codeLabel c ++ ")"
  else "invalid non-printable character U+" ++ codeLabel c

/-- The part of a word before the first character that a name may not hold there. -/
def namePart : List Char → List Char
  | [] => []
  | c :: cs =>
    if Text.isNameStart c then c :: cs.takeWhile Text.isNameChar else []

/-- Read a name. -/
def readName (r : Reader) (word : List Char) : Step :=
  let good := namePart word
  match word.drop good.length with
  | [] =>
    let after := r.skip word
    .emit [r.token after .name word] after
  | c :: _ => .stop [] (some ((r.skip (good ++ [c])).urgentFault (badCharacter c)))

/-- Letters that may stand before a string, in small letters. -/
def stringPrefixes : List String := ["b", "r", "u", "f", "br", "rb", "fr", "rf"]

/-- Whether a word before a quote is part of the string. -/
def isStringPrefix (word : List Char) : Bool :=
  stringPrefixes.contains (String.ofList (word.map Char.toLower))

/-- Split a string in one pair of quotes from what follows it; a failed search gives the text it
reached. -/
def shortString (quote : Char) : List Char → Except (List Char) (List Char × List Char)
  | [] => .error []
  | '\n' :: _ => .error []
  | '\\' :: c :: cs => grow [c, '\\'] (shortString quote cs)
  | c :: cs => if c = quote then .ok ([c], cs) else grow [c] (shortString quote cs)
where
  /-- Put characters, last first, in front of the text read. -/
  grow (front : List Char) :
      Except (List Char) (List Char × List Char) → Except (List Char) (List Char × List Char)
    | .error seen => .error (front.reverse ++ seen)
    | .ok (seen, rest) => .ok (front.reverse ++ seen, rest)

/-- The same for a string in three pairs of quotes. -/
def longString (quote : Char) : List Char → Except (List Char) (List Char × List Char)
  | [] => .error []
  | '\\' :: c :: cs => shortString.grow [c, '\\'] (longString quote cs)
  | c :: cs =>
    if c = quote && [quote, quote].isPrefixOf cs then .ok ([c, c, c], cs.drop 2)
    else shortString.grow [c] (longString quote cs)

/-- Read a string behind its letters `word`; the rest starts with a quote. -/
def readString (r : Reader) (word : List Char) (quote : Char) (body : List Char) : Step :=
  let long := [quote, quote].isPrefixOf body
  let opening := word ++ (if long then [quote, quote, quote] else [quote])
  let scanned :=
    if long then longString quote (body.drop 2) else shortString quote body
  match scanned with
  | .ok (seen, _) =>
    let text := opening ++ seen
    let after := r.skip text
    .emit [r.token after .string text] after
  | .error seen =>
    let last := (r.skip (opening ++ seen)).line
    let kind := if long then "unterminated triple-quoted string literal"
      else "unterminated string literal"
    .stop [] (some ⟨⟨r.line, r.chars + 1,
      kind ++ " (detected at line " ++ toString last ++ ")"⟩, true, r.brackets⟩)

/-! ## Numbers and operators -/

/-- Read a number. -/
def readNumber (r : Reader) : Step :=
  let line := r.rest.takeWhile (· ≠ '\n') ++ ['\n']
  match scanNumber line with
  | .ok rest =>
    let text := line.take (line.length - rest.length)
    let after := r.skip text
    .emit [r.token after .number text] after
  | .error ⟨message, some rest⟩ =>
    .stop [] (some ((r.skip (line.take (line.length - rest.length))).urgentFault message))
  | .error ⟨message, none⟩ =>
    .stop [] (some ⟨⟨r.line, r.bytes + 1, message⟩, true, r.brackets⟩)

/-- Operators of three characters. -/
def operators3 : List (List Char) :=
  ["**=", "//=", ">>=", "<<=", "..."].map String.toList

/-- Operators of two characters. -/
def operators2 : List (List Char) :=
  ["!=", "%=", "&=", "**", "*=", "+=", "-=", "->", "//", "/=", ":=", "<<", "<=", "<>", "==",
   ">=", ">>", "@=", "^=", "|="].map String.toList

/-- Operators of one character. -/
def operators1 : List Char :=
  "()[]\x7b\x7d:,;+-*/|&<>=.%~^@".toList

/-- The longest operator at the start of a text. -/
def operatorAt? (cs : List Char) : Option (List Char) :=
  let three := cs.take 3
  let two := cs.take 2
  if operators3.contains three then some three
  else if operators2.contains two then some two
  else match cs with
    | c :: _ => if operators1.contains c then some [c] else none
    | [] => none

/-- The most brackets that may be open. -/
def maxBrackets : Nat := 200

/-- The bracket that closes an opening one. -/
def closer (c : Char) : Char :=
  if c = '(' then ')' else if c = '[' then ']' else '\x7d'

def isOpener (c : Char) : Bool := c = '(' || c = '[' || c = '\x7b'
def isCloser (c : Char) : Bool := c = ')' || c = ']' || c = '\x7d'

/-- Open a bracket. -/
def openBracket (r : Reader) (c : Char) : Except LexFault (List Bracket) :=
  if r.brackets.length ≥ maxBrackets then
    .error (r.next.urgentFault "too many nested parentheses")
  else .ok (⟨c, r.line, r.bytes⟩ :: r.brackets)

/-- Close the innermost bracket. -/
def closeBracket (r : Reader) (c : Char) : Except LexFault (List Bracket) :=
  match r.brackets with
  | [] => .error (r.next.urgentFault ("unmatched '" ++ c.toString ++ "'"))
  | b :: outer =>
    if closer b.char = c then .ok outer
    else
      let message := "closing parenthesis '" ++ c.toString ++
        "' does not match opening parenthesis '" ++ b.char.toString ++ "'" ++
        (if b.line = r.line then "" else " on line " ++ toString b.line)
      .error ({ r with brackets := outer }.next.urgentFault message)

/-- Read an operator, a bracket or a stray character. -/
def readOperator (r : Reader) (c : Char) : Step :=
  match operatorAt? r.rest with
  | none =>
    if Text.isPrintable c then
      let after := r.next
      .emit [r.token after .stray [c]] after
    else .stop [] (some (r.next.urgentFault (badCharacter c)))
  | some text =>
    let brackets :=
      if text.length > 1 then .ok r.brackets
      else if isOpener c then openBracket r c
      else if isCloser c then closeBracket r c
      else .ok r.brackets
    match brackets with
    | .error fault => .stop [] (some fault)
    | .ok brackets =>
      let after := { r.skip text with brackets := brackets }
      .emit [r.token after .op text] after

/-! ## The reader -/

/-- The line ends at the reader `r`. Its end begins at `start`, where a comment may stand. -/
def readNewline (start r : Reader) : Step :=
  let after := { r.next.fresh with lineStart := true }
  if r.brackets = [] then .emit [start.token start .newline []] after else .emit [] after

/-- Read one token inside a line. -/
def readToken (t : SourceText) (r : Reader) : Step :=
  let r := r.skip (r.rest.takeWhile fun c => c = ' ' || c = '\t' || c = '\x0c')
  match r.rest with
  | [] => if r.brackets = [] then .stop [r.mark .endMarker] none else .stop [] (some (r.endFault t))
  | '#' :: _ => readNewline r (r.skip (r.rest.takeWhile (· ≠ '\n')))
  | '\n' :: _ => readNewline r r
  | '\\' :: _ =>
    match r.continueLine t with
    | .ok r => .emit [] r
    | .error fault => .stop [] (some fault)
  | c :: cs =>
    if c.isDigit || (c = '.' && cs.head?.any Char.isDigit) then readNumber r
    else if c = '"' || c = '\'' then readString r [] c cs
    else if isWordChar c then
      let word := r.rest.takeWhile isWordChar
      match r.rest.drop word.length with
      | q :: body =>
        if (q = '"' || q = '\'') && isStringPrefix word then readString r word q body
        else readName r word
      | [] => readName r word
    else readOperator r c

/-- One step of the reader. -/
def Reader.step (t : SourceText) (r : Reader) : Step :=
  if r.lineStart then readLineStart t r else readToken t r

/-- Read tokens until the text or the fuel ends; `acc` holds the tokens so far. -/
def readFrom (t : SourceText) : (fuel : Nat) → Reader → Array Token → TokenStream
  | 0, _, acc => ⟨acc, none⟩
  | fuel + 1, r, acc =>
    match r.step t with
    | .emit tokens r => readFrom t fuel r (acc ++ tokens.toArray)
    | .stop tokens fault => ⟨acc ++ tokens.toArray, fault⟩

/-- The tokens of a text. Every second step takes at least one character. -/
def SourceText.tokens (t : SourceText) : TokenStream :=
  readFrom t (2 * t.chars.length + 4) (Reader.start t) #[]

end NodeLint.Source
