import NodeLint.Source.Syntax

/-!
# The tracked class

A file uses the tracked class under the name that its first top-level import of the class binds.
Only absolute imports from the module count. A class extends the tracked one if that name is its
only base.
-/

namespace NodeLint

open Source

/-- A class of a module. -/
structure Tracked where
  module : String
  symbol : String
deriving Repr, DecidableEq

/-- The class whose subclasses are checked. -/
def Tracked.standard : Tracked := ⟨"graphpc", "Node"⟩

/-- The name a file uses for an imported class. -/
structure Binding where
  source : Tracked
  localName : String
deriving Repr, DecidableEq

namespace Binding

/-- The binding an import statement makes, if it makes one. -/
def ofStmt? (tracked : Tracked) (s : Stmt) : Option Binding :=
  match s.form with
  | .importFrom 0 (some module) names =>
    if module = tracked.module then
      (names.find? fun a => a.name = tracked.symbol).map fun a => ⟨tracked, a.localName⟩
    else none
  | _ => none

/-- The first binding that the top level of a file makes. -/
def find? (tracked : Tracked) (stmts : List Stmt) : Option Binding :=
  stmts.findSome? (ofStmt? tracked)

end Binding

namespace Source.Stmt

/-- The name of the only base of a class, if that is a plain name. -/
def superclass? (s : Stmt) : Option String :=
  match s.form with
  | .classDef _ [.name id _] _ => some id
  | _ => none

/-- Whether a class directly extends what a binding names. -/
def extendsBinding (s : Stmt) (b : Option Binding) : Bool :=
  match b with
  | none => false
  | some b => s.superclass? = some b.localName

mutual

/-- A statement and all that it holds, each before what it holds itself. -/
def preorder : Stmt → List Stmt
  | .mk f s body => .mk f s body :: preorderAll body

/-- Several statements and all that they hold. -/
def preorderAll : List Stmt → List Stmt
  | [] => []
  | s :: rest => s.preorder ++ preorderAll rest

end

/-- Whether a statement defines a class. -/
def isClass (s : Stmt) : Bool :=
  match s.form with
  | .classDef _ _ _ => true
  | _ => false

/-- The classes of a file at any depth, in the order of the text. -/
def classes (stmts : List Stmt) : List Stmt := (preorderAll stmts).filter isClass

end Source.Stmt
end NodeLint
