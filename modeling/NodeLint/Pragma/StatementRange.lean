import NodeLint.Source.Syntax

/-!
# Statement ranges

A pragma on a line of its own covers the statement that is introduced on the next line. A
statement is introduced on its first line, and a decorated definition also on the line of its first
decorator. Where several statements are introduced on one line, the outermost counts: statements
are visited level by level, and the first one to occupy a line keeps it.
-/

namespace NodeLint

open Source

/-- The lines statements are introduced on, each with the last line of its statement, in the order
they were occupied. -/
abbrev StatementRanges := List (Nat × Nat)

namespace StatementRanges

mutual

/-- How many statements and arms there are. -/
def size : Stmt → Nat
  | .mk _ _ body => 1 + sizeAll body

/-- How many there are in several statements. -/
def sizeAll : List Stmt → Nat
  | [] => 0
  | s :: rest => size s + sizeAll rest

end

/-- Visit statements level by level; the queue holds what is still to be visited. -/
def levelOrder : (fuel : Nat) → (queue : List Stmt) → List Stmt
  | 0, _ => []
  | _ + 1, [] => []
  | fuel + 1, s :: queue => s :: levelOrder fuel (queue ++ s.body)

/-- The smallest line among expressions. -/
def firstLine? (es : List Expr) : Option Nat := (es.map fun e => e.span.line).min?

/-- The lines a statement is introduced on. -/
def introducing (s : Stmt) : List Nat :=
  if s.isStatement then s.line :: (firstLine? s.decorators).toList else []

/-- Occupy a line, unless it is occupied already. -/
def occupy (ranges : StatementRanges) (line last : Nat) : StatementRanges :=
  if (ranges.lookup line).isSome then ranges else ranges ++ [(line, last)]

/-- Occupy the lines of one statement. -/
def occupyAll (ranges : StatementRanges) (s : Stmt) : StatementRanges :=
  (introducing s).foldl (fun r line => occupy r line s.endLine) ranges

/-- The statement ranges of a file. -/
def ofStmts (stmts : List Stmt) : StatementRanges :=
  (levelOrder (sizeAll stmts) stmts).foldl occupyAll []

/-- The last line of the statement introduced on a line. -/
def lastLine? (ranges : StatementRanges) (line : Nat) : Option Nat := ranges.lookup line

end StatementRanges
end NodeLint
