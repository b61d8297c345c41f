import NodeLint.Source.Position

/-!
# Tokens

What the grammar is written over. Indentation is made explicit by `indent` and `dedent`, and a
`newline` ends each logical line. Comments and blank lines leave no token.
-/

namespace NodeLint.Source

/-- The kinds of token. A `stray` character belongs to no construct. -/
inductive TokenKind where
  | name
  | number
  | string
  | op
  | stray
  | newline
  | indent
  | dedent
  | endMarker
deriving Repr, DecidableEq

/-- One token, with what a message about it needs: the brackets open behind it, the byte column
the reader stands at, and the first of the lines the reader holds. -/
structure Token where
  kind : TokenKind
  text : String
  span : Span
  depth : Nat
  cursor : Nat
  chunk : Nat
deriving Repr, DecidableEq

namespace Token

/-- Tokens that stand for no characters of the text have no column. -/
def hasColumn (t : Token) : Bool :=
  match t.kind with
  | .indent | .dedent | .endMarker => false
  | _ => true

/-- Tokens that end a construct without being part of it. -/
def isLayout (t : Token) : Bool :=
  match t.kind with
  | .newline | .indent | .dedent | .endMarker => true
  | _ => false

end Token

/-- The letters before the quotes of a string literal. -/
def prefixLetters (text : List Char) : List Char :=
  text.takeWhile fun c => c ≠ '"' && c ≠ '\''

/-- Whether a string literal has this letter, small or capital, before its quotes. -/
def hasPrefix (letter : Char) (text : List Char) : Bool :=
  (prefixLetters text).any fun c => c.toLower = letter

/-- Words that are never names. -/
def keywords : List String :=
  ["False", "None", "True", "and", "as", "assert", "async", "await", "break", "class",
   "continue", "def", "del", "elif", "else", "except", "finally", "for", "from", "global", "if",
   "import", "in", "is", "lambda", "nonlocal", "not", "or", "pass", "raise", "return", "try",
   "while", "with", "yield"]

/-- Words that are keywords in some places only. -/
def softKeywords : List String := ["_", "case", "match"]

/-- An open bracket and where it stands. -/
structure Bracket where
  char : Char
  line : Nat
  column : Nat
deriving Repr, DecidableEq

namespace Bracket

/-- The fault of a bracket that the text leaves open, while the reader holds the lines from
`chunk` to `current`. -/
def neverClosed (t : SourceText) (chunk current : Nat) (b : Bracket) : Fault :=
  ⟨b.line, t.column chunk current b.line (b.column + 1),
    "'" ++ b.char.toString ++ "' was never closed"⟩

/-- The same when the reader has left the line of the bracket. -/
def neverClosedEarlier (t : SourceText) (b : Bracket) : Fault :=
  b.neverClosed t (b.line + 1) (b.line + 1)

end Bracket

/-- Why no further token could be read. An `urgent` fault is reported even when the grammar has
already failed earlier in the text. -/
structure LexFault where
  fault : Fault
  urgent : Bool
  /-- The brackets open at that point, innermost first. -/
  brackets : List Bracket
deriving Repr, DecidableEq

/-- The tokens of a text. They end in an end marker, or in the fault that stopped the reader. -/
structure TokenStream where
  tokens : Array Token
  stop : Option LexFault

end NodeLint.Source
