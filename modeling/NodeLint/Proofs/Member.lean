import NodeLint.Proofs.Check

/-!
# Which members have to be decorated

Four things are asked of a member: its kind, whether it is static, who may use it, and whether its
name is private to the class. They overlap, and what they come to is simple. A member has to be
decorated if its name starts with no underscore and none of its decorators is one of a few dotted
names.

The kind of a member is given by the first decorator that decides it, so that it depends on the
order of the decorators. Whether the member has to be decorated does not, and neither does what the
check finds.
-/

namespace NodeLint

open Source

/-! ## Names -/

/-- A name that starts with underscores starts with one. -/
theorem head?_of_startsWith {name front : String} (h : Text.startsWith name front = true)
    (hfront : front.toList.head? = some '_') : name.toList.head? = some '_' := by
  obtain ⟨rest, hrest⟩ := List.isPrefixOf_iff_prefix.mp h
  rw [← hrest, List.head?_append, hfront, Option.some_or]

/-- A name that starts with one underscore is no public name, unless it has two on both sides. -/
theorem ofName_ne_everyone {name : String} (hname : name.toList.head? = some '_')
    (hdunder : isDunder name = false) : Visibility.ofName name ≠ .everyone := by
  obtain ⟨rest, hrest⟩ := List.head?_eq_some_iff.mp hname
  have hstarts : Text.startsWith name "_" = true := by
    rw [Text.startsWith, hrest]
    rfl
  rw [Visibility.ofName, hstarts, hdunder]
  split <;> nofun

section
variable {name : String} (hname : name.toList.head? ≠ some '_')
include hname

/-- Any other name does not start with underscores. -/
theorem startsWith_eq_false (front : String) (hfront : front.toList.head? = some '_') :
    Text.startsWith name front = false :=
  Bool.eq_false_iff.mpr fun hstarts => hname (head?_of_startsWith hstarts hfront)

/-- It belongs to no protocol. -/
theorem isDunder_eq_false : isDunder name = false := by
  simp [isDunder, startsWith_eq_false hname "__" rfl]

/-- It is not private to a class. -/
theorem isMangled_eq_false : isMangled name = false := by
  simp [isMangled, startsWith_eq_false hname "__" rfl]

/-- Everyone may use it. -/
theorem ofName_eq_everyone : Visibility.ofName name = .everyone := by
  simp [Visibility.ofName, isMangled_eq_false hname, startsWith_eq_false hname "_" rfl]

/-- It is not that of a constructor. -/
theorem not_mem_constructorNames : name ∉ constructorNames := by
  intro hmem
  have hcases : name = "__init__" ∨ name = "__new__" := by simpa [constructorNames] using hmem
  rcases hcases with rfl | rfl
  · exact hname rfl
  · exact hname rfl

end

/-! ## Decorators -/

/-- An expression is a chain of names, which this is when joined by dots. -/
inductive Source.Expr.Dotted : Expr → String → Prop where
  | word {id : String} {span : Span} : Dotted (.name id span) id
  | member {value : Expr} {front attr : String} {span : Span} (hvalue : Dotted value front) :
      Dotted (.attribute value attr span) (front ++ "." ++ attr)

/-- Reading an expression as a dotted name gives what it is when joined by dots. -/
theorem dottedName?_eq_some_iff : (e : Expr) → (dotted : String) →
    (dottedName? e = some dotted ↔ e.Dotted dotted)
  | .name id span, dotted => by
    rw [dottedName?, Option.some.injEq]
    constructor
    · intro h
      exact h ▸ .word
    · intro h
      cases h
      rfl
  | .attribute value attr span, dotted => by
    rw [dottedName?, Option.map_eq_some_iff]
    constructor
    · intro h
      obtain ⟨front, hfront, hdotted⟩ := h
      exact hdotted ▸ .member ((dottedName?_eq_some_iff value front).mp hfront)
    · intro h
      cases h with
      | member hvalue => exact ⟨_, (dottedName?_eq_some_iff value _).mpr hvalue, rfl⟩
  | .call _ _, dotted => ⟨nofun, nofun⟩
  | .other _, dotted => ⟨nofun, nofun⟩

/-- The decorators of properties and of static members. -/
def exemptNames : List String :=
  ["property", "cached_property", "functools.cached_property", "staticmethod", "classmethod"]

/-- How the decorators of the further functions of a property end. -/
def exemptEndings : List String := [".getter", ".setter", ".deleter"]

/-- A decorator exempts a member if it is a chain of names that is one of those or ends so. -/
def Source.Expr.Exempts (e : Expr) : Prop :=
  ∃ dotted, e.Dotted dotted ∧
    (dotted ∈ exemptNames ∨ ∃ ending ∈ exemptEndings, ending.toList <:+ dotted.toList)

/-- A dotted name exempts a member if it gives it a kind or makes it static. -/
theorem exempt_iff (dotted : String) :
    (dotted ∈ exemptNames ∨ ∃ ending ∈ exemptEndings, ending.toList <:+ dotted.toList) ↔
      MemberKind.ofDecorator? dotted ≠ none ∨ dotted ∈ staticDecorators := by
  have hends (ending : String) :
      Text.endsWith dotted ending = true ↔ ending.toList <:+ dotted.toList :=
    List.isSuffixOf_iff_suffix
  have hkind : MemberKind.ofDecorator? dotted ≠ none ↔
      dotted ∈ getterDecorators ∨ ∃ ending ∈ exemptEndings, ending.toList <:+ dotted.toList := by
    simp only [MemberKind.ofDecorator?, exemptEndings, List.mem_cons, List.not_mem_nil, or_false,
      exists_eq_or_imp, exists_eq_left, ← hends]
    grind
  have hnames : dotted ∈ exemptNames ↔ dotted ∈ getterDecorators ∨ dotted ∈ staticDecorators := by
    simp [exemptNames, getterDecorators, staticDecorators, or_assoc]
  rw [hkind, hnames, or_right_comm]

/-! ## Members -/

/-- A decorator makes no plain method out of a member. -/
theorem ofDecorator?_ne_method (dotted : String) :
    MemberKind.ofDecorator? dotted ≠ some .method := by
  unfold MemberKind.ofDecorator?
  split
  · nofun
  · split <;> nofun

/-- A member is a plain method if neither its name nor any of its decorators says otherwise. -/
theorem kind_eq_method_iff (name : String) (dotted : List String) :
    MemberKind.of name dotted = .method ↔
      name ∉ constructorNames ∧ (∀ x ∈ dotted, MemberKind.ofDecorator? x = none) ∧
        isDunder name = false := by
  rw [← List.findSome?_eq_none_iff, MemberKind.of]
  by_cases hconstructor : name ∈ constructorNames
  · simp [hconstructor]
  · cases hfound : dotted.findSome? MemberKind.ofDecorator? with
    | none => cases hdunder : isDunder name <;> simp [hconstructor]
    | some kind =>
      obtain ⟨x, -, hx⟩ := List.exists_of_findSome?_eq_some hfound
      have hkind : kind ≠ .method := by
        rintro rfl
        exact ofDecorator?_ne_method x hx
      simp [hconstructor, hkind]

variable {name : String} {decorators decorators' : List Expr} {span : Span}

/-- A member has to be decorated if its name starts with no underscore and no decorator exempts
it. -/
theorem isCheckable_ofFunction :
    (Member.ofFunction name decorators span).isCheckable = true ↔
      name.toList.head? ≠ some '_' ∧ ∀ e ∈ decorators, ¬ e.Exempts := by
  have hexempts : (∀ e ∈ decorators, ¬ e.Exempts) ↔
      ∀ x ∈ decorators.filterMap dottedName?,
        MemberKind.ofDecorator? x = none ∧ x ∉ staticDecorators := by
    simp only [Expr.Exempts, exempt_iff, List.mem_filterMap, dottedName?_eq_some_iff]
    grind
  have hcheckable : (Member.ofFunction name decorators span).isCheckable = true ↔
      MemberKind.of name (decorators.filterMap dottedName?) = .method ∧
        (∀ x ∈ decorators.filterMap dottedName?, x ∉ staticDecorators) ∧
        Visibility.ofName name = .everyone ∧ isMangled name = false := by
    change (decide (MemberKind.of name (decorators.filterMap dottedName?) = .method) &&
      !(decorators.filterMap dottedName?).any staticDecorators.contains &&
      decide (Visibility.ofName name = .everyone) && !isMangled name) = true ↔ _
    simp only [Bool.and_eq_true, Bool.not_eq_true', decide_eq_true_eq, List.any_eq_false,
      List.contains_iff_mem, and_assoc]
  rw [hcheckable, hexempts, kind_eq_method_iff]
  constructor
  · rintro ⟨⟨-, hkind, hdunder⟩, hstatic, hvisible, -⟩
    refine ⟨fun hname => ofName_ne_everyone hname hdunder hvisible, ?_⟩
    intro x hx
    exact ⟨hkind x hx, hstatic x hx⟩
  · rintro ⟨hname, hnone⟩
    refine ⟨⟨not_mem_constructorNames hname, fun x hx => (hnone x hx).1, isDunder_eq_false hname⟩,
      fun x hx => (hnone x hx).2, ofName_eq_everyone hname, isMangled_eq_false hname⟩

/-- The order of its decorators does not matter for that. -/
theorem isCheckable_perm (h : decorators.Perm decorators') :
    (Member.ofFunction name decorators span).isCheckable =
      (Member.ofFunction name decorators' span).isCheckable := by
  rw [Bool.eq_iff_iff, isCheckable_ofFunction, isCheckable_ofFunction]
  simp only [h.mem_iff]

/-! ## Statements with their decorators in another order -/

mutual

/-- Two statements differ at most in the order of the decorators of functions, at any depth. -/
inductive Redecorated : Stmt → Stmt → Prop where
  | keep {form : Form} {span : Span} {body body' : List Stmt} (hbody : AllRedecorated body body') :
      Redecorated (.mk form span body) (.mk form span body')
  | function {name : String} {ds ds' : List Expr} {span : Span} {body body' : List Stmt}
      (hperm : ds.Perm ds') (hbody : AllRedecorated body body') :
      Redecorated (.mk (.function name ds) span body) (.mk (.function name ds') span body')

/-- The same for several statements, one by one. -/
inductive AllRedecorated : List Stmt → List Stmt → Prop where
  | nil : AllRedecorated [] []
  | cons {s s' : Stmt} {rest rest' : List Stmt} (hs : Redecorated s s')
      (hrest : AllRedecorated rest rest') : AllRedecorated (s :: rest) (s' :: rest')

end

namespace Rule

section
variable {c c' : Context} (hreport : report c = report c')
include hreport

/-- A function is reported no matter in which order its decorators stand. -/
theorem finding?_redecorated (className : String) {s s' : Stmt} (h : Redecorated s s') :
    finding? c className s = finding? c' className s' := by
  cases h with
  | keep =>
    unfold finding?
    rw [hreport]
    rfl
  | @function name ds ds' span body body' hperm =>
    have hfinding (c : Context) (ds : List Expr) (body : List Stmt) :
        finding? c className (.mk (.function name ds) span body) =
          if (Member.ofFunction name ds span).isCheckable && !ds.any isWanted then
            some (report c className (Member.ofFunction name ds span)) else none := rfl
    have hany : ds.any isWanted = ds'.any isWanted := by
      rw [Bool.eq_iff_iff, List.any_eq_true, List.any_eq_true]
      simp only [hperm.mem_iff]
    have hmember : report c className (Member.ofFunction name ds span) =
        report c' className (Member.ofFunction name ds' span) := by
      rw [hreport]
      rfl
    rw [hfinding, hfinding, isCheckable_perm hperm, hany, hmember]

/-- So are the functions of a body. -/
theorem filterMap_finding?_redecorated (className : String) {body body' : List Stmt}
    (h : AllRedecorated body body') :
    body.filterMap (finding? c className) = body'.filterMap (finding? c' className) := by
  induction body generalizing body' with
  | nil =>
    cases h
    rfl
  | cons s rest ih =>
    cases h with
    | cons hs hrest =>
      rw [List.filterMap_cons, List.filterMap_cons, finding?_redecorated hreport className hs,
        ih hrest]

/-- A class gives the same findings. -/
theorem checkClass_redecorated (n : String) {s s' : Stmt} (h : Redecorated s s') :
    checkClass c ⟨Tracked.standard, n⟩ s = checkClass c' ⟨Tracked.standard, n⟩ s' := by
  rw [checkClass_eq, checkClass_eq]
  cases h with
  | keep hbody =>
    simp only [classFindings, Stmt.form, Stmt.body,
      filterMap_finding?_redecorated hreport _ hbody]
  | function => rfl

end

mutual

/-- The walk below a statement gives the same findings. -/
theorem visit_redecorated {c c' : Context} (hreport : report c = report c') (n : String) :
    {s s' : Stmt} → Redecorated s s' →
      visit c ⟨Tracked.standard, n⟩ s = visit c' ⟨Tracked.standard, n⟩ s'
  | _, _, .keep hbody => by
    rw [visit, visit, checkClass_redecorated hreport n (.keep hbody),
      visitAll_redecorated hreport n hbody]
  | _, _, .function hperm hbody => by
    rw [visit, visit, checkClass_redecorated hreport n (.function hperm hbody),
      visitAll_redecorated hreport n hbody]

/-- The walk over statements gives the same findings. -/
theorem visitAll_redecorated {c c' : Context} (hreport : report c = report c') (n : String) :
    {stmts stmts' : List Stmt} → AllRedecorated stmts stmts' →
      visitAll c ⟨Tracked.standard, n⟩ stmts = visitAll c' ⟨Tracked.standard, n⟩ stmts'
  | _, _, .nil => rfl
  | _, _, .cons hs hrest => by
    rw [visitAll, visitAll, visit_redecorated hreport n hs, visitAll_redecorated hreport n hrest]

end

/-- The top level of a file binds the same names. -/
theorem find?_redecorated (tracked : Tracked) {stmts stmts' : List Stmt}
    (h : AllRedecorated stmts stmts') :
    Binding.find? tracked stmts = Binding.find? tracked stmts' := by
  unfold Binding.find?
  induction stmts generalizing stmts' with
  | nil =>
    cases h
    rfl
  | cons s rest ih =>
    cases h with
    | @cons _ s' _ _ hs hrest =>
      have hbinding : Binding.ofStmt? tracked s = Binding.ofStmt? tracked s' := by
        cases hs <;> rfl
      rw [List.findSome?_cons, List.findSome?_cons, ih hrest, hbinding]

/-- The check of a file gives the same findings. -/
theorem check_redecorated (severity : Severity) (path : Path) (lines : List String)
    {stmts stmts' : List Stmt} (h : AllRedecorated stmts stmts') :
    check severity ⟨path, lines, .ok stmts⟩ = check severity ⟨path, lines, .ok stmts'⟩ := by
  simp only [check, find?_redecorated Tracked.standard h, find?_standard]
  cases trackedName? stmts' with
  | none => rfl
  | some n =>
    have hreport : report ⟨⟨path, lines, .ok stmts⟩, severity⟩ =
        report ⟨⟨path, lines, .ok stmts'⟩, severity⟩ := rfl
    exact visitAll_redecorated hreport n h

end Rule

/-! ## What decides whether a member has to be decorated -/

/-- The decorators of a property and of a setter. -/
def propertyAndSetter : List Expr :=
  [.name "property" ⟨3, 2, 3, 10⟩, .attribute (.name "x" ⟨4, 2, 4, 3⟩) "setter" ⟨4, 2, 4, 10⟩]

/-- A member has to be decorated exactly if its name starts with no underscore and none of its
decorators is that of a property, of a static member, or of a further function of a property. The
order of the decorators decides neither that nor what the check finds, whichever functions of a file
have theirs in another order; it can decide of which kind a member is. -/
theorem isCheckable_iff_plain (name : String) (decorators : List Expr) (span : Span) :
    ((Member.ofFunction name decorators span).isCheckable = true ↔
      name.toList.head? ≠ some '_' ∧ ∀ e ∈ decorators, ¬ e.Exempts) ∧
    (∀ decorators', decorators.Perm decorators' →
      (Member.ofFunction name decorators span).isCheckable =
        (Member.ofFunction name decorators' span).isCheckable) ∧
    (∀ severity path lines stmts stmts', AllRedecorated stmts stmts' →
      Rule.check severity ⟨path, lines, .ok stmts⟩ =
        Rule.check severity ⟨path, lines, .ok stmts'⟩) ∧
    ∃ ds ds' : List Expr, ds.Perm ds' ∧
      (Member.ofFunction "x" ds span).kind ≠ (Member.ofFunction "x" ds' span).kind := by
  refine ⟨isCheckable_ofFunction, fun _ => isCheckable_perm, ?_, ?_⟩
  · intro severity path lines stmts stmts' h
    exact Rule.check_redecorated severity path lines h
  · have hkinds : MemberKind.of "x" (propertyAndSetter.filterMap dottedName?) ≠
        MemberKind.of "x" (propertyAndSetter.reverse.filterMap dottedName?) := by decide +kernel
    exact ⟨_, _, propertyAndSetter.reverse_perm.symm, hkinds⟩

/-- A class with a function that has these decorators. -/
def decoratedFile (decorators : List Expr) : List Stmt :=
  [.mk (.importFrom 0 (some "graphpc") [⟨"Node", none⟩]) ⟨1, 0, 1, 24⟩ [],
   .mk (.classDef "A" [.name "Node" ⟨2, 8, 2, 12⟩] []) ⟨2, 0, 5, 12⟩
     [.mk (.function "f" decorators) ⟨5, 1, 5, 12⟩ [.mk .other ⟨5, 10, 5, 11⟩ []]]]

/-- A property with a setter's decorator is exempt in either order, and a function with two other
decorators is reported in either order. -/
theorem isCheckable_propertyAndSetter :
    let span : Span := ⟨5, 1, 5, 12⟩
    let others : List Expr := [.name "log" ⟨3, 2, 3, 5⟩, .name "cache" ⟨4, 2, 4, 7⟩]
    let file (ds : List Expr) : SourceFile := ⟨⟨.relative, ["a.py"]⟩, [], .ok (decoratedFile ds)⟩
    (Member.ofFunction "x" propertyAndSetter span).isCheckable = false ∧
    (Member.ofFunction "x" propertyAndSetter.reverse span).isCheckable = false ∧
    AllRedecorated (decoratedFile others) (decoratedFile others.reverse) ∧
    (Rule.check .error (file others)).length = 1 ∧
    (Rule.check .error (file others.reverse)).length = 1 := by
  intro span others file
  obtain ⟨-, hperm, hcheck, -⟩ := isCheckable_iff_plain "x" propertyAndSetter span
  have hfirst : (Member.ofFunction "x" propertyAndSetter span).isCheckable = false := by
    decide +kernel
  have hsecond := hperm _ propertyAndSetter.reverse_perm.symm
  have hothers : AllRedecorated (decoratedFile others) (decoratedFile others.reverse) :=
    .cons (.keep .nil) (.cons (.keep (.cons
      (.function others.reverse_perm.symm (.cons (.keep .nil) .nil)) .nil)) .nil)
  have hfound : (Rule.check .error (file others)).length = 1 := by decide +kernel
  refine ⟨hfirst, hsecond.symm.trans hfirst, hothers, hfound, ?_⟩
  rw [← hcheck .error _ _ _ _ hothers]
  exact hfound

end NodeLint
