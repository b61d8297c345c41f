import NodeLint.Source.Escape
import NodeLint.Source.Lexer

/-!
# String literals

A string literal that the reader has found may still be no string: an escape in it can be wrong,
bytes may hold ASCII only, and literals side by side are all bytes or all text. A formatted string
holds fields between braces, each with an expression and perhaps a conversion and a format. The
format may hold fields itself. Doubled braces stand for a brace, except in a format.

The expression of a field is a text of its own. It is found here, and a parameter checks it.
-/

namespace NodeLint.Source

/-- The expression of a field: the line it starts on, how far the columns of that line are off, and
its text. -/
structure Field where
  line : Nat
  offset : Nat
  text : List Char
deriving Repr, DecidableEq

/-- What is wrong with a string literal: words without a place, or a fault inside a field. -/
inductive StringFault where
  | words (message : String)
  | inside (fault : Fault)
deriving Repr, DecidableEq

/-- What opens a string literal, and what stands between its quotes. -/
def literalParts (text : List Char) : List Char × List Char :=
  let letters := prefixLetters text
  let quoted := text.drop letters.length
  let width := if quoted.take 3 = List.replicate 3 (quoted.headD '"') then 3 else 1
  (letters ++ quoted.take width, (quoted.drop width).take (quoted.length - 2 * width))

/-! ## Formatted strings -/

/-- How far a formatted string is read: the characters before, last first, and those to come. -/
structure Cursor where
  seen : List Char
  rest : List Char

/-- Move behind so many characters. -/
def Cursor.advance (c : Cursor) (n : Nat) : Cursor :=
  ⟨(c.rest.take n).reverse ++ c.seen, c.rest.drop n⟩

/-- A scanner: from a place in a formatted string to a later one. -/
abbrev StringScan := Cursor → Except StringFault Cursor

/-- Words about a formatted string. -/
def formatFault (message : String) : StringFault := .words ("f-string: " ++ message)

/-- A field goes on where it should end. -/
def braceExpected : StringFault := formatFault "expecting '\x7d'"

/-- Whether a character is a brace. -/
def isBrace (c : Char) : Bool := c = '\x7b' || c = '\x7d'

/-- A stretch of a formatted string outside fields: its text, whether a doubled brace ends it, and
the place behind it. -/
structure Stretch where
  text : List Char
  doubled : Bool
  behind : Cursor

/-- End a stretch at a brace; `text` is what has been read of it, last first, and `before` what
precedes it. -/
def endStretch (inFormat : Bool) (before text : List Char) (brace : Char) (rest : List Char) :
    Except StringFault Stretch :=
  let here : Stretch := ⟨text.reverse, false, ⟨text ++ before, brace :: rest⟩⟩
  if inFormat then .ok here
  else if rest.head? = some brace then
    .ok ⟨(brace :: text).reverse, true, ⟨brace :: brace :: text ++ before, rest.tail⟩⟩
  else if brace = '\x7d' then .error (formatFault "single '\x7d' is not allowed")
  else .ok here

/-- Where in a stretch a character stands: behind a backslash, behind the letter of an escape by
name, inside the braces of such a name, or nowhere in particular. -/
inductive StretchPart where
  | plain
  | escape
  | nameEscape
  | name
deriving Repr, DecidableEq

/-- Read a stretch outside fields. It ends at a brace, unless the brace belongs to an escape by
name. -/
def readStretch (raw inFormat : Bool) (before : List Char) :
    StretchPart → (text : List Char) → List Char → Except StringFault Stretch
  | _, text, [] => .ok ⟨text.reverse, false, ⟨text ++ before, []⟩⟩
  | .plain, text, c :: cs =>
    if isBrace c then endStretch inFormat before text c cs
    else if c = '\\' && !raw then readStretch raw inFormat before .escape (c :: text) cs
    else readStretch raw inFormat before .plain (c :: text) cs
  | .escape, text, c :: cs =>
    if isBrace c then endStretch inFormat before text c cs
    else if c = 'N' then readStretch raw inFormat before .nameEscape (c :: text) cs
    else readStretch raw inFormat before .plain (c :: text) cs
  | .nameEscape, text, c :: cs =>
    readStretch raw inFormat before (if c = '\x7b' then .name else .plain) (c :: text) cs
  | .name, text, c :: cs =>
    readStretch raw inFormat before (if c = '\x7d' then .plain else .name) (c :: text) cs

/-- Where a character of an expression stands: how many characters are still passed over, the quote
of the string around it and whether three of them end the string, and the open brackets, innermost
first. -/
structure ExpressionState where
  skip : Nat
  quote : Option (Char × Bool)
  brackets : List Char

namespace ExpressionState

/-- The expression ends where it may not: in a string, in brackets, or with the literal. -/
def endFault (s : ExpressionState) : StringFault :=
  match s.quote, s.brackets with
  | some _, _ => formatFault "unterminated string"
  | none, b :: _ => formatFault ("unmatched '" ++ b.toString ++ "'")
  | none, [] => braceExpected

/-- Open a string at its first quote. -/
def openString (s : ExpressionState) (mark : Char) (rest : List Char) : ExpressionState :=
  if [mark, mark].isPrefixOf rest then { s with skip := 2, quote := some (mark, true) }
  else { s with quote := some (mark, false) }

/-- Close a string, if it ends at this quote. -/
def closeString (s : ExpressionState) (mark : Char) (long : Bool) (rest : List Char) :
    ExpressionState :=
  if !long then { s with quote := none }
  else if [mark, mark].isPrefixOf rest then { s with skip := 2, quote := none }
  else s

/-- Open a bracket. -/
def openBracket (s : ExpressionState) (c : Char) : Except StringFault ExpressionState :=
  if s.brackets.length ≥ maxBrackets then .error (formatFault "too many nested parenthesis")
  else .ok { s with brackets := c :: s.brackets }

/-- Close the innermost bracket. -/
def closeBracket (s : ExpressionState) (c : Char) : Except StringFault ExpressionState :=
  match s.brackets with
  | [] => .error (formatFault ("unmatched '" ++ c.toString ++ "'"))
  | b :: outer =>
    if closer b = c then .ok { s with brackets := outer }
    else .error (formatFault ("closing parenthesis '" ++ c.toString ++
      "' does not match opening parenthesis '" ++ b.toString ++ "'"))

/-- Pass a character, or stop before it. Outside strings and brackets an expression ends at a
character that goes on with the field, unless an equals sign makes it a comparison. -/
def step (s : ExpressionState) (c : Char) (rest : List Char) :
    Except StringFault (Option ExpressionState) :=
  if 0 < s.skip then .ok (some { s with skip := s.skip - 1 })
  else if c = '\\' then .error (.words "f-string expression part cannot include a backslash")
  else match s.quote with
  | some (mark, long) => .ok (some (if c = mark then s.closeString mark long rest else s))
  | none =>
    if c = '"' || c = '\'' then .ok (some (s.openString c rest))
    else if c = '#' then .error (.words "f-string expression part cannot include '#'")
    else if isOpener c then (s.openBracket c).map some
    else if s.brackets = [] && "!=<>".toList.contains c && rest.head? = some '=' then
      .ok (some { s with skip := 1 })
    else if s.brackets = [] && "!=:\x7d".toList.contains c then .ok none
    else if isCloser c then (s.closeBracket c).map some
    else .ok (some s)

end ExpressionState

/-- Read the expression of a field. -/
def readExpression : ExpressionState → (seen : List Char) → List Char → Except StringFault Cursor
  | s, _, [] => .error s.endFault
  | s, seen, c :: cs =>
    match s.step c cs with
    | .error fault => .error fault
    | .ok none => .ok ⟨seen, c :: cs⟩
    | .ok (some s) => readExpression s (c :: seen) cs

/-- Blanks that leave an expression empty. -/
def isFieldBlank (c : Char) : Bool := c = ' ' || c = '\t' || c = '\x0c' || c = '\n'

/-- The expression `text` of a field, in a literal that starts at a line and a column; `before` is
what precedes the brace in the literal, last first. Columns are not off if a line ends right behind
the brace. -/
def fieldAt (line column : Nat) (before text : List Char) : Field :=
  let breaks := before.count '\n'
  let blankLine := (text.dropWhile fun c => c ≠ '\n' && isFieldBlank c).head? = some '\n'
  let indent := if blankLine then 0 else byteLength (before.takeWhile (· ≠ '\n'))
  ⟨line + breaks, if breaks = 0 then column + indent else indent, text⟩

/-- The fault of an expression that ends at the character `stop`. -/
def expressionFault? (check : Field → Option Fault) (field : Field) (stop : Char) :
    Option StringFault :=
  if field.text.all isFieldBlank then
    some (formatFault (if stop = '\x7d' then "empty expression not allowed"
      else "expression required before '" ++ stop.toString ++ "'"))
  else (check field).map .inside

/-- Read an equals sign behind an expression, with the blanks behind it. -/
def skipEquals (c : Cursor) : Cursor :=
  match c.rest with
  | '=' :: cs =>
    c.advance (1 + (cs.takeWhile fun d => isFieldBlank d || d = '\r' || d = '\x0b').length)
  | _ => c

/-- Read a conversion. -/
def readConversion : StringScan := fun c =>
  match c.rest with
  | ['!'] => .error braceExpected
  | '!' :: letter :: _ =>
    if letter = 's' || letter = 'r' || letter = 'a' then .ok (c.advance 2)
    else .error (formatFault "invalid conversion character: expected 's', 'r', or 'a'")
  | _ => .ok c

/-- Read a field; `format` reads a format. -/
def readField (check : Field → Option Fault) (line column : Nat) (format : StringScan) :
    StringScan := fun c => do
  let start := c.advance 1
  let stop ← readExpression ⟨0, none, []⟩ start.seen start.rest
  let text := start.rest.take (start.rest.length - stop.rest.length)
  match expressionFault? check (fieldAt line column c.seen text) (stop.rest.headD '\x7d') with
  | some fault => .error fault
  | none =>
    let c ← readConversion (skipEquals stop)
    let c ← if c.rest.head? = some ':' then format (c.advance 1) else .ok c
    if c.rest.head? = some '\x7d' then .ok (c.advance 1) else .error braceExpected

/-- Read stretches and fields by turns. Each turn takes a character, or is the last. -/
def readTurns (raw inFormat : Bool) (field : StringScan) : (fuel : Nat) → StringScan
  | 0, c => .ok c
  | fuel + 1, c => do
    let stretch ← readStretch raw inFormat c.seen .plain [] c.rest
    match if raw then none else badEscape? stretch.text with
    | some message => .error (.words message)
    | none =>
      let c := stretch.behind
      if stretch.doubled then readTurns raw inFormat field fuel c
      else if c.rest.head? = some '\x7b' then
        let c ← field c
        readTurns raw inFormat field fuel c
      else .ok c

/-- Read a formatted string, or a format in it, in which fields may be nested `depth` deep. -/
def readFormatted (check : Field → Option Fault) (raw : Bool) (line column : Nat) :
    (depth : Nat) → (inFormat : Bool) → StringScan
  | 0, inFormat, c =>
    readTurns raw inFormat (fun _ => .error (formatFault "expressions nested too deeply"))
      (c.rest.length + 1) c
  | depth + 1, inFormat, c =>
    readTurns raw inFormat
      (readField check line column (readFormatted check raw line column depth true))
      (c.rest.length + 1) c

/-! ## Literals -/

/-- What is wrong with a literal that is not formatted. -/
def plainFault? (k : Token) : Option String :=
  let text := k.text.toList
  let content := (literalParts text).2
  if hasPrefix 'f' text then none
  else if hasPrefix 'b' text && content.any fun c => c.toNat ≥ 128 then
    some "bytes can only contain ASCII literal characters"
  else if hasPrefix 'r' text then none
  else if hasPrefix 'b' text then badByteEscape? content
  else badEscape? content

/-- What is wrong with a formatted literal. Fields may stand in the formats of fields, but no
deeper. -/
def formattedFault? (check : Field → Option Fault) (k : Token) : Option StringFault :=
  let text := k.text.toList
  let (front, content) := literalParts text
  if hasPrefix 'f' text then
    match readFormatted check (hasPrefix 'r' text) k.span.line k.span.column 2 false
      ⟨front.reverse, content⟩ with
    | .error fault => some fault
    | .ok _ => none
  else none

/-- What is wrong with literals side by side, read one after the other; `bytes` says of what kind
the first one is. -/
def badStrings? (check : Field → Option Fault) (bytes : Option Bool) :
    List Token → Option StringFault
  | [] => none
  | k :: rest =>
    let isBytes := hasPrefix 'b' k.text.toList
    let mixed := "cannot mix bytes and nonbytes literals"
    (plainFault? k).map .words <|>
      (if bytes.any (· ≠ isBytes) then some (.words mixed) else none) <|>
      formattedFault? check k <|> badStrings? check (some isBytes) rest

end NodeLint.Source
