import NodeLint.Rule
import NodeLint.Binding
import NodeLint.Member
import NodeLint.Diagnostic
import NodeLint.Source.File

/-!
# The check for decorators

The tree is walked once from the top. Each class that directly extends the tracked one is asked
for its members, and each member that has to be decorated and is not gives one diagnostic. Classes
inside functions, branches, handlers and other classes are checked like any other.
-/

namespace NodeLint.Rule

open Source

/-- Where a check reports to: the file, and the severity of the rule. -/
structure Context where
  file : SourceFile
  severity : Severity

/-- The place of a piece of the tree. -/
def locationOf (s : Span) : Location where
  line := s.line
  column := s.column + 1
  endLine := some s.endLine
  endColumn := some (s.endColumn + 1)

/-- The diagnostic for a member without a decorator. -/
def report (c : Context) (className : String) (m : Member) : Diagnostic :=
  let data := [("name", m.name), ("class_name", className)]
  { file := c.file.path
    location := locationOf m.span
    code := requireDecorator.code
    message :=
      ((Template.renderById requireDecorator.messages missingDecorator data).toOption).getD ""
    severity := c.severity
    sourceLine := c.file.lineAt m.span.line
    messageId := some missingDecorator
    data := data }

/-- Whether a member breaks the rule. -/
def offends (m : Member) : Bool := m.isCheckable && !m.qualifies qualifyingDecorators

/-- The diagnostics for the members of one class. -/
def checkClass (c : Context) (b : Binding) (s : Stmt) : List Diagnostic :=
  match s.form with
  | .classDef name _ _ =>
    if s.extendsBinding (some b) then
      ((Member.ofClass s).filter offends).map (report c (classDisplayName name))
    else []
  | _ => []

mutual

/-- The diagnostics for a statement and all that it holds. -/
def visit (c : Context) (b : Binding) : Stmt → List Diagnostic
  | .mk f s body => checkClass c b (.mk f s body) ++ visitAll c b body

/-- The diagnostics for several statements. -/
def visitAll (c : Context) (b : Binding) : List Stmt → List Diagnostic
  | [] => []
  | s :: rest => visit c b s ++ visitAll c b rest

end

/-- The diagnostics of the rule for a file. A file that is not a program, or that never imports
the tracked class, gives none. -/
def check (severity : Severity) (file : SourceFile) : List Diagnostic :=
  match file.tree with
  | .error _ => []
  | .ok stmts =>
    match Binding.find? Tracked.standard stmts with
    | none => []
    | some b => visitAll ⟨file, severity⟩ b stmts

end NodeLint.Rule
