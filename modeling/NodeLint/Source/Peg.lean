import NodeLint.Source.Tree

/-!
# Grammars

A grammar maps each rule to a parsing expression. Choices are ordered: the first alternative that
matches wins. Besides the usual operators an expression may label what it matches, commit to an
alternative, insist on a token, and refuse a construct with a complaint. Some alternatives are
hints: they recognise common mistakes and are tried only once the text is known to be wrong.
-/

namespace NodeLint.Source

/-- What a grammar can ask of one token. -/
inductive Terminal where
  /-- A name that is no keyword. -/
  | name
  | number
  | string
  | newline
  | indent
  | dedent
  | endMarker
  /-- This very word, be it a keyword or a name. -/
  | word (text : String)
  /-- The start of a word that is a keyword in some places only. -/
  | softKeyword
  | op (text : String)
deriving Repr, DecidableEq

/-- Whether a token is what the terminal asks for. -/
def Terminal.accepts (t : Terminal) (k : Token) : Bool :=
  match t with
  | .name => k.kind = .name && !keywords.contains k.text
  | .number => k.kind = .number
  | .string => k.kind = .string
  | .newline => k.kind = .newline
  | .indent => k.kind = .indent
  | .dedent => k.kind = .dedent
  | .endMarker => k.kind = .endMarker
  | .word s => k.kind = .name && k.text = s
  | .softKeyword => k.kind = .name && softKeywords.any fun s => k.text.toList.isPrefixOf s.toList
  | .op s => k.kind = .op && k.text = s

/-- Where an assignment target is used; a loop target may be followed by the membership test
that the loop is written with. -/
inductive TargetUse where
  | assign
  | loop
  | delete
deriving Repr, DecidableEq

/-- What to say about a refused construct, and where. Most complaints are about the marked part;
some look closer and may find nothing to say. -/
inductive Complaint where
  /-- At the last token read. -/
  | here (message : String)
  /-- At the marked part. -/
  | atMark (message : String)
  /-- At the last token read; the marked word opened the block that is missing. -/
  | missingBlock (construct : String)
  /-- At the marked part, with the words for it in the middle. -/
  | describing (before after : String)
  /-- At the part of the marked target that cannot be assigned to or deleted. -/
  | badTarget (use : TargetUse)
  /-- Two expressions side by side inside brackets. -/
  | missingComma
  /-- A statement that has become a function. -/
  | missingParentheses
  /-- Behind a dictionary key. -/
  | missingColon
  /-- A generator among several arguments: at the last of them. -/
  | bareGenerator
  /-- A positional argument behind a keyword argument. -/
  | argumentOrder
  /-- A string literal that cannot be. -/
  | badStrings
  /-- An integer with too many digits; it is the last token of the construct. -/
  | longNumber
  /-- A complex literal whose parts are not a real and an imaginary number. -/
  | notReal
  | notImaginary
deriving Repr, DecidableEq

/-- Parsing expressions over the rules `ρ`. -/
inductive Peg (ρ : Type) where
  | terminal (t : Terminal)
  /-- A terminal that stays in the tree. -/
  | keep (t : Terminal)
  | rule (r : ρ)
  | seq (ps : List (Peg ρ))
  | alt (ps : List (Peg ρ))
  /-- Once `head` matches, `body` has to; otherwise the alternative `otherwise`. -/
  | commit (head body otherwise : Peg ρ)
  | optional (p : Peg ρ)
  | many (p : Peg ρ)
  | many1 (p : Peg ρ)
  /-- One or more, with a separator between each two. -/
  | sepBy (p sep : Peg ρ)
  | ahead (p : Peg ρ)
  | notAhead (p : Peg ρ)
  /-- A token that has to come now. -/
  | forced (text : String)
  /-- Label what is matched. -/
  | node (kind : Kind) (p : Peg ρ)
  /-- A head and then, as long as one matches, steps that each wrap all that precedes. -/
  | chain (head : Peg ρ) (steps : List (Kind × Peg ρ))
  /-- Refuse what matches; with nothing to say, the whole choice fails. -/
  | refuse (p : Peg ρ) (c : Complaint)
  /-- Refuse what matches if there is something to say about it. -/
  | checked (p : Peg ρ) (c : Complaint)
  /-- Tried only when the text is known to be wrong. -/
  | hint (p : Peg ρ)
  /-- Match without hints. -/
  | plain (p : Peg ρ)

/-- A grammar: the expression of each rule, which rules are worth remembering, and the rules for a
whole text and for the expression of a field. -/
structure Grammar (ρ : Type) where
  body : ρ → Peg ρ
  remembered : ρ → Bool
  start : ρ
  field : ρ

end NodeLint.Source
