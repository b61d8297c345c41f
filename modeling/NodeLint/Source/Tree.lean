import NodeLint.Source.Token

/-!
# Parse trees

A parse tree keeps the labelled parts of a derivation: the expressions, the statements, and the
names that later stages need. Everything else the grammar consumes leaves no trace.
-/

namespace NodeLint.Source

/-- Labels of parse tree nodes. The first group are expressions. -/
inductive Kind where
  | name
  | literalTrue
  | literalFalse
  | literalNone
  | ellipsis
  | literal
  | tuple
  | list
  | set
  | dict
  | listComprehension
  | setComprehension
  | dictComprehension
  | generator
  | lambda
  | conditional
  | operation
  | comparison
  | membership
  | starred
  | attribute
  | subscript
  | call
  | await
  | yield
  | namedExpression
  /-- A keyword argument of a call. -/
  | keyword
  /-- Argument unpacking of a mapping in a call. -/
  | unpacking
  /-- The part of a derivation that a complaint is about. -/
  | mark
  /-- The arguments of a call or the bases of a class. -/
  | arguments
  /-- A function definition: its name, then its body. -/
  | function
  /-- A class definition: its name, its arguments, then its body. -/
  | classDef
  /-- Decorators, then the definition they decorate. -/
  | decorated
  /-- An import of names from a module. -/
  | importFrom
  /-- The module of such an import: dots and names. -/
  | importModule
  /-- One imported name, with the name it is bound to if that differs. -/
  | importAlias
  /-- A statement that is one expression. -/
  | expressionStatement
  /-- A statement that holds no statements. -/
  | simple
  /-- A statement that holds statements. -/
  | compound
  /-- A handler or case of a statement: it holds statements and is none itself. -/
  | arm
deriving Repr, DecidableEq

/-- A parse tree. -/
inductive Tree where
  | leaf (token : Token)
  | node (kind : Kind) (span : Span) (children : List Tree)
deriving Repr

namespace Kind

/-- The words for an expression of this kind. -/
def describe : Kind → String
  | .attribute => "attribute"
  | .subscript => "subscript"
  | .starred => "starred"
  | .name => "name"
  | .list => "list"
  | .tuple => "tuple"
  | .lambda => "lambda"
  | .call => "function call"
  | .generator => "generator expression"
  | .yield => "yield expression"
  | .await => "await expression"
  | .listComprehension => "list comprehension"
  | .setComprehension => "set comprehension"
  | .dictComprehension => "dict comprehension"
  | .dict => "dict literal"
  | .set => "set display"
  | .literalNone => "None"
  | .literalFalse => "False"
  | .literalTrue => "True"
  | .ellipsis => "ellipsis"
  | .literal => "literal"
  | .comparison | .membership => "comparison"
  | .conditional => "conditional expression"
  | .namedExpression => "named expression"
  | _ => "expression"

end Kind

namespace Tree

/-- The label of a tree; a leaf has none. -/
def kind? : Tree → Option Kind
  | .leaf _ => none
  | .node k _ _ => some k

/-- The stretch of text a tree covers. -/
def span : Tree → Span
  | .leaf t => t.span
  | .node _ s _ => s

/-- The parts of a tree. -/
def children : Tree → List Tree
  | .leaf _ => []
  | .node _ _ cs => cs

/-- The text of a leaf. -/
def text : Tree → String
  | .leaf t => t.text
  | .node _ _ _ => ""

/-- The first part with a label. -/
def find? (kind : Kind) (trees : List Tree) : Option Tree :=
  trees.find? fun t => t.kind? = some kind

/-- The words for an expression. -/
def describe (t : Tree) : String :=
  if t.kind? = some .literal && t.children.any fun c => hasPrefix 'f' c.text.toList then
    "f-string expression"
  else (t.kind?.map Kind.describe).getD ""

end Tree
end NodeLint.Source
