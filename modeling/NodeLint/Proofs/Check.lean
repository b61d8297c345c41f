import NodeLint.Run
import NodeLint.Proofs.ClassKeyword
import NodeLint.Proofs.Occurrence

/-!
# What the check for decorators finds

The findings of the check are told without a walk through the tree. A name is taken from the imports
at the top of the file; every class of the tree is then asked for itself, in the order of the class
keywords, whether its only base is that name, and if so its body is read for functions that lack a
decorator. Which diagnostic such a function gives is left to the rule.
-/

namespace NodeLint

open Source

/-- A result that something can be made of is there. -/
theorem ok_of_bind_eq_some {ε α β : Type} {r : Except ε α} {f : α → Option β} {b : β}
    (h : r.toOption.bind f = some b) : ∃ a, r = .ok a ∧ f a = some b := by
  cases r with
  | error e => cases h
  | ok a => exact ⟨a, rfl, h⟩

/-! ## The tracked name -/

/-- The imports that a statement makes from a module, if it is an absolute import from there. -/
def importedFrom (module : String) (s : Stmt) : List Alias :=
  match s.form with
  | .importFrom 0 (some m) names => if m = module then names else []
  | _ => []

/-- The name that the first top-level import of the tracked class binds. -/
def trackedName? (stmts : List Stmt) : Option String :=
  ((stmts.flatMap (importedFrom "graphpc")).find? fun a => a.name = "Node").map Alias.localName

/-- The binding of a statement is the first among its imports. -/
theorem Binding.ofStmt?_eq (tracked : Tracked) (s : Stmt) :
    ofStmt? tracked s = ((importedFrom tracked.module s).find? fun a => a.name = tracked.symbol).map
      fun a => ⟨tracked, a.localName⟩ := by
  unfold ofStmt? importedFrom
  cases s.form with
  | importFrom level module names =>
    cases level with
    | zero =>
      cases module with
      | none => rfl
      | some m => by_cases hm : m = tracked.module <;> simp [hm]
    | succ level => rfl
  | _ => rfl

/-- The binding of a file is the first among the imports of all its statements. -/
theorem Binding.find?_eq (tracked : Tracked) (stmts : List Stmt) :
    find? tracked stmts =
      ((stmts.flatMap (importedFrom tracked.module)).find? fun a => a.name = tracked.symbol).map
        fun a => ⟨tracked, a.localName⟩ := by
  induction stmts with
  | nil => rfl
  | cons s rest ih =>
    rw [find?] at ih
    rw [find?, List.findSome?_cons, ofStmt?_eq, List.flatMap_cons, List.find?_append, ih]
    cases (importedFrom tracked.module s).find? fun a => a.name = tracked.symbol <;> rfl

/-- The binding of the tracked class is known by its name. -/
theorem find?_standard (stmts : List Stmt) :
    Binding.find? Tracked.standard stmts =
      (trackedName? stmts).map fun n => ⟨Tracked.standard, n⟩ := by
  rw [Binding.find?_eq, trackedName?, Option.map_map]
  rfl

/-! ## The findings of one class -/

/-- Whether a decorator is one of the wanted names, bare or called. -/
def isWanted : Expr → Bool
  | .name id _ => id = "edge" || id = "method" || id = "hidden"
  | .call (.name id _) _ => id = "edge" || id = "method" || id = "hidden"
  | _ => false

/-- The wanted decorators are those that qualify. -/
theorem isOneOf_ofExpr (e : Expr) :
    (Decorator.ofExpr e).isOneOf qualifyingDecorators = isWanted e := by
  have hname (id : String) : qualifyingDecorators.contains id =
      (id = "edge" || id = "method" || id = "hidden") := by
    simp [qualifyingDecorators, Bool.or_assoc]
  cases e with
  | name id span => exact hname id
  | call function span =>
    cases function with
    | name id span => exact hname id
    | _ => rfl
  | _ => rfl

namespace Rule

/-- The diagnostic for a statement in the body of a class: there is one for a function that has to
be decorated and has no wanted decorator. -/
def finding? (c : Context) (className : String) (s : Stmt) : Option Diagnostic :=
  match s.form with
  | .function name decorators =>
    let m := Member.ofFunction name decorators s.span
    if m.isCheckable && !decorators.any isWanted then some (report c className m) else none
  | _ => none

/-- The diagnostics for a class whose only base is a name, in the order of its body. -/
def classFindings (c : Context) (base : String) (s : Stmt) : List Diagnostic :=
  match s.form with
  | .classDef name [.name id _] _ =>
    if id = base then s.body.filterMap (finding? c (classDisplayName name)) else []
  | _ => []

/-- The members of a body that break the rule are reported one by one. -/
theorem map_report_ofClass (c : Context) (className : String) (s : Stmt) :
    ((Member.ofClass s).filter offends).map (report c className) =
      s.body.filterMap (finding? c className) := by
  rw [Member.ofClass, List.filter_filterMap, List.map_filterMap]
  congr 1
  funext member
  unfold Member.ofStmt? finding?
  cases member.form with
  | function name decorators =>
    have hqualifies : (Member.ofFunction name decorators member.span).qualifies qualifyingDecorators =
        decorators.any isWanted := by
      rw [Member.qualifies, Member.ofFunction, List.any_map]
      exact List.any_congr rfl fun e => isOneOf_ofExpr e
    simp only [Option.filter, offends, hqualifies]
    split <;> rfl
  | _ => rfl

/-- The check of one class finds what its body and its only base say. -/
theorem checkClass_eq (c : Context) (name : String) (s : Stmt) :
    checkClass c ⟨Tracked.standard, name⟩ s = classFindings c name s := by
  unfold checkClass classFindings Stmt.extendsBinding Stmt.superclass?
  cases hform : s.form with
  | classDef className bases decorators =>
    simp only [map_report_ofClass]
    cases bases with
    | nil => rfl
    | cons first others =>
      cases others with
      | nil => cases first <;> simp
      | cons second others => cases first <;> rfl
  | _ => rfl

mutual

/-- The walk below a statement checks the classes of its pre-order. -/
theorem visit_eq (c : Context) (b : Binding) : (s : Stmt) →
    visit c b s = (s.preorder.filter Stmt.isClass).flatMap (checkClass c b)
  | .mk f span body => by
    have hbody := visitAll_eq c b body
    rw [Stmt.classes] at hbody
    rw [visit, Stmt.preorder, hbody, List.filter_cons]
    cases f <;> rfl

/-- The walk over statements checks the classes of their pre-order. -/
theorem visitAll_eq (c : Context) (b : Binding) : (stmts : List Stmt) →
    visitAll c b stmts = (Stmt.classes stmts).flatMap (checkClass c b)
  | [] => rfl
  | s :: rest => by
    rw [visitAll, visit_eq c b s, visitAll_eq c b rest, Stmt.classes, Stmt.classes,
      Stmt.preorderAll, List.filter_append, List.flatMap_append]

end

/-- Every finding is the report on a member of a class. -/
theorem exists_report {severity : Severity} {file : SourceFile} {d : Diagnostic}
    (hd : d ∈ check severity file) :
    ∃ className m, d = report ⟨file, severity⟩ className m := by
  unfold check at hd
  split at hd
  · cases hd
  · split at hd
    · cases hd
    · rw [visitAll_eq, List.mem_flatMap] at hd
      obtain ⟨s, -, hd⟩ := hd
      unfold checkClass at hd
      split at hd
      · split at hd
        · obtain ⟨m, -, rfl⟩ := List.mem_map.mp hd
          exact ⟨_, m, rfl⟩
        · cases hd
      · cases hd

/-! ## The findings of a file -/

/-- The classes at listed addresses are those of the pre-order. -/
theorem map_at?_of_lists {stmts : List Stmt} {classes : List (List Nat)}
    (hclasses : Stmt.Lists stmts Stmt.isClass classes) :
    classes.map (Stmt.at? stmts) = (Stmt.classes stmts).map some := by
  obtain ⟨as, has, hmap⟩ := Stmt.exists_lists stmts Stmt.isClass
  rw [hclasses.unique has, hmap, Stmt.classes]

/-- A file that never imports the tracked class has no findings. In any other file the classes of
the tree are listed, each once and in the order of their keywords in the text, and the findings are
those of one class after the other. -/
theorem check_eq_classFindings (s : Settings) (path : Path) (lines : List String)
    (stmts : List Stmt) :
    let file : SourceFile := ⟨path, lines, .ok stmts⟩
    let severity := s.severity requireDecorator.code
    (trackedName? stmts = none → check severity file = []) ∧
    (∃ classes, Stmt.Lists stmts Stmt.isClass classes) ∧
    ∀ classes, Stmt.Lists stmts Stmt.isClass classes →
      (∀ n, trackedName? stmts = some n → check severity file =
        classes.flatMap fun a => (Stmt.at? stmts a).elim [] (classFindings ⟨file, severity⟩ n)) ∧
      ∀ text, parse text = .ok stmts →
        classes.map (fun a => (Stmt.at? stmts a).map fun c => c.span.start) =
          (keywordStarts (SourceText.ofSource text).tokens.tokens.toList).map some := by
  intro file severity
  refine ⟨fun hnone => ?_, ?_, fun classes hclasses => ?_⟩
  · simp only [check, file, find?_standard, hnone, Option.map_none]
  · obtain ⟨classes, hclasses, -⟩ := Stmt.exists_lists stmts Stmt.isClass
    exact ⟨classes, hclasses⟩
  have hmap := map_at?_of_lists hclasses
  refine ⟨fun n hn => ?_, fun text htext => ?_⟩
  · have hcheck : check severity file =
        (Stmt.classes stmts).flatMap (classFindings ⟨file, severity⟩ n) := by
      simp only [check, file, find?_standard, hn, Option.map_some, visitAll_eq]
      rw [funext (checkClass_eq _ n)]
    calc check severity file
      _ = ((Stmt.classes stmts).map some).flatMap
          fun c => c.elim [] (classFindings ⟨file, severity⟩ n) := by
        rw [hcheck, List.flatMap_map]; rfl
      _ = _ := by rw [← hmap, List.flatMap_map]
  · calc classes.map (fun a => (Stmt.at? stmts a).map fun c => c.span.start)
      _ = ((Stmt.classes stmts).map some).map (Option.map fun c => c.span.start) := by
        rw [← hmap, List.map_map]; rfl
      _ = (classStarts stmts).map some := by rw [classStarts, List.map_map, List.map_map]; rfl
      _ = _ := by rw [parse_classStarts htext]

/-- A class with a method and a class inside another class. -/
def nestedClasses : List Char :=
  "from graphpc import Node\nclass A(Node):\n class B(Node):\n  def f(): 0\n".toList

set_option maxRecDepth 100000 in
/-- Without imports there are no findings, and with nested classes they are as described. -/
theorem check_nestedClasses :
    let path : Path := ⟨.relative, ["a.py"]⟩
    check .error ⟨path, [], .ok []⟩ = [] ∧
    ∃ stmts n classes, parse nestedClasses = .ok stmts ∧ trackedName? stmts = some n ∧
      Stmt.Lists stmts Stmt.isClass classes ∧
      check .error ⟨path, [], .ok stmts⟩ =
        classes.flatMap (fun a =>
          (Stmt.at? stmts a).elim [] (classFindings ⟨⟨path, [], .ok stmts⟩, .error⟩ n)) ∧
      classes.map (fun a => (Stmt.at? stmts a).map fun c => c.span.start) =
        [some (2, 0), some (3, 1)] := by
  intro path
  refine ⟨(check_eq_classFindings {} path [] []).1 rfl, ?_⟩
  have hname : (parse nestedClasses).toOption.bind trackedName? = some "Node" := by decide +kernel
  obtain ⟨stmts, hparse, hn⟩ := ok_of_bind_eq_some hname
  obtain ⟨-, ⟨classes, hclasses⟩, hfindings⟩ := check_eq_classFindings {} path [] stmts
  obtain ⟨hcheck, hkeywords⟩ := hfindings classes hclasses
  refine ⟨stmts, "Node", classes, hparse, hn, hclasses, hcheck "Node" hn, ?_⟩
  rw [hkeywords nestedClasses hparse]
  decide +kernel

end Rule
end NodeLint
