import NodeLint.Source.Grammar

/-!
# Statements and expressions

The part of the syntax tree that the checks look at. A statement knows its form, its place, and
the statements it holds. Exception handlers and match cases are arms: they hold statements, stand
between them and the statement they belong to, and are no statements themselves. Of expressions
only names, attributes and calls are told apart.
-/

namespace NodeLint.Source

/-- An expression, as far as decorators and base classes need it. -/
inductive Expr where
  | name (id : String) (span : Span)
  | attribute (value : Expr) (attr : String) (span : Span)
  | call (function : Expr) (span : Span)
  | other (span : Span)
deriving Repr, DecidableEq

/-- The place of an expression. -/
def Expr.span : Expr → Span
  | .name _ s | .attribute _ _ s | .call _ s | .other s => s

/-- An imported name, and the name it is bound to if another one is given. -/
structure Alias where
  name : String
  bound : Option String
deriving Repr, DecidableEq

/-- The name an import binds. -/
def Alias.localName (a : Alias) : String := a.bound.getD a.name

/-- What a statement is, apart from its place and the statements it holds. -/
inductive Form where
  | function (name : String) (decorators : List Expr)
  | classDef (name : String) (bases decorators : List Expr)
  /-- An import from a module, `level` dots up. -/
  | importFrom (level : Nat) (module : Option String) (names : List Alias)
  | expression (value : Expr)
  /-- A handler or a case, which is no statement itself. -/
  | arm
  | other
deriving Repr, DecidableEq

/-- A statement or an arm, with the statements and arms directly inside it in the order of the
text. -/
inductive Stmt where
  | mk (form : Form) (span : Span) (body : List Stmt)
deriving Repr

namespace Stmt

def form : Stmt → Form
  | .mk f _ _ => f

def span : Stmt → Span
  | .mk _ s _ => s

def body : Stmt → List Stmt
  | .mk _ _ b => b

/-- The line a statement starts on; for a decorated definition that of its keyword. -/
def line (s : Stmt) : Nat := s.span.line

/-- The last line of a statement. -/
def endLine (s : Stmt) : Nat := s.span.endLine

/-- The decorators of a definition, from the top. -/
def decorators (s : Stmt) : List Expr :=
  match s.form with
  | .function _ ds => ds
  | .classDef _ _ ds => ds
  | _ => []

/-- Whether this is a statement, and not an arm of one. -/
def isStatement (s : Stmt) : Bool := s.form ≠ .arm

/-- Put decorators on a definition. -/
def decorate (ds : List Expr) : Stmt → Stmt
  | .mk (.function n _) s b => .mk (.function n ds) s b
  | .mk (.classDef n bases _) s b => .mk (.classDef n bases ds) s b
  | s => s

end Stmt

namespace Tree

/-- The expression a tree stands for. -/
def toExpr : Tree → Expr
  | .node .name s [.leaf k] => .name (Text.normalName k.text) s
  | .node .attribute s [value, .leaf k] => .attribute value.toExpr (Text.normalName k.text) s
  | .node .call s (function :: _) => .call function.toExpr s
  | .leaf k => .other k.span
  | .node _ s _ => .other s

/-- The texts of the leaves among trees. -/
def leafTexts (trees : List Tree) : List String :=
  trees.filterMap fun
    | .leaf k => some k.text
    | .node _ _ _ => none

/-- The name that a definition starts with. -/
def definedName (parts : List Tree) : String :=
  Text.normalName ((leafTexts parts).headD "")

/-- The expressions among the bases of a class; keyword arguments are no bases. -/
def baseExprs (parts : List Tree) : List Expr :=
  match Tree.find? .arguments parts with
  | some arguments => (positionalArguments arguments.children).map toExpr
  | none => []

/-- How far up an import with these leading tokens goes. -/
def importLevel (texts : List String) : Nat :=
  texts.foldl (fun level t => level + if t = "." then 1 else if t = "..." then 3 else 0) 0

/-- The module an import names, if it names one. -/
def importedModule (texts : List String) : Option String :=
  match texts.filter fun t => t ≠ "." && t ≠ "..." with
  | [] => none
  | names => some (Text.join "." (names.map Text.normalName))

/-- An imported name. -/
def toAlias (t : Tree) : Alias :=
  match leafTexts t.children with
  | [] => ⟨"", none⟩
  | [n] => ⟨Text.normalName n, none⟩
  | n :: b :: _ => ⟨Text.normalName n, some (Text.normalName b)⟩

/-- The form of an import from a module. -/
def importForm (parts : List Tree) : Form :=
  let source := leafTexts ((Tree.find? .importModule parts).map Tree.children |>.getD [])
  .importFrom (importLevel source) (importedModule source)
    ((parts.filter fun t => t.kind? = some .importAlias).map toAlias)

mutual

/-- The statement or arm a tree stands for; an expression stands for none. -/
def toStmts : Tree → List Stmt
  | .node .function s parts => [.mk (.function (definedName parts) []) s (allStmts parts)]
  | .node .classDef s parts =>
    [.mk (.classDef (definedName parts) (baseExprs parts) []) s (allStmts parts)]
  | .node .decorated _ parts =>
    (allStmts parts).map (Stmt.decorate (parts.dropLast.map toExpr))
  | .node .importFrom s parts => [.mk (importForm parts) s []]
  | .node .expressionStatement s (value :: _) => [.mk (.expression value.toExpr) s []]
  | .node .simple s _ => [.mk .other s []]
  | .node .compound s parts => [.mk .other s (allStmts parts)]
  | .node .arm s parts => [.mk .arm s (allStmts parts)]
  | .node _ _ _ => []
  | .leaf _ => []

/-- The statements and arms among several trees. -/
def allStmts : List Tree → List Stmt
  | [] => []
  | t :: ts => t.toStmts ++ allStmts ts

end

end Tree

/-- The statements of a program, or what is wrong with its text. -/
def parse (source : List Char) : Except Fault (List Stmt) :=
  (language.parse (SourceText.ofSource source)).map Tree.allStmts

end NodeLint.Source
