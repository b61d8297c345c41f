import NodeLint.Binding
import NodeLint.Proofs.Derivation
import NodeLint.Proofs.Occurrence
import NodeLint.Proofs.Reader

/-!
# Class keywords and classes

Every class of a program begins at a `class` keyword of its text, and every such keyword begins a
class. Read in pre-order, the classes of the tree stand in the order of the keywords. No part of the
tree hides a class: neither a block of a statement, nor a handler or case, nor a decorated
definition.

The argument looks at the grammar once. Apart from the start of a class definition no expression
takes the keyword, the parts that the tree is not searched in take none at all, and the parts it is
searched in keep every class below them. That the rules are of this kind is checked rule by rule.
-/

namespace NodeLint.Source

/-- Where a stretch of text begins: its line and its byte column. -/
def Span.start (s : Span) : Nat × Nat := (s.line, s.column)

/-- Whether a token is the keyword that begins a class. -/
def Token.isClassKeyword (k : Token) : Bool := k.kind = .name && k.text = "class"

/-- Where the class keywords among tokens stand. -/
def keywordStarts (ks : List Token) : List (Nat × Nat) :=
  (ks.filter Token.isClassKeyword).map fun k => k.span.start

/-- Where the classes of statements begin, in pre-order. -/
def classStarts (stmts : List Stmt) : List (Nat × Nat) :=
  (Stmt.classes stmts).map fun s => s.span.start

/-- The tokens from one position up to another. -/
def stretch (tokens : Array Token) (i j : Nat) : List Token := (tokens.toList.drop i).take (j - i)

/-! ## Stretches of tokens -/

section
variable {tokens : Array Token} {i m j : Nat}

/-- An empty stretch has no tokens. -/
@[simp] theorem stretch_self : stretch tokens i i = [] := by simp [stretch]

/-- Nor has it keywords. -/
@[simp] theorem keywordStarts_stretch_self : keywordStarts (stretch tokens i i) = [] := by
  simp [keywordStarts]

/-- Two adjacent stretches make one. -/
theorem stretch_append (him : i ≤ m) (hmj : m ≤ j) :
    stretch tokens i j = stretch tokens i m ++ stretch tokens m j := by
  have hlength : j - i = (m - i) + (j - m) := by omega
  have hstart : i + (m - i) = m := by omega
  simp only [stretch]
  rw [hlength, List.take_add, List.drop_drop, hstart]

/-- A stretch of one token. -/
theorem stretch_one {k : Token} (hread : tokens[i]? = some k) : stretch tokens i (i + 1) = [k] := by
  obtain ⟨hi, rfl⟩ := Array.getElem?_eq_some_iff.mp hread
  have hlist : i < tokens.toList.length := by simpa using hi
  simp only [stretch, Nat.add_sub_cancel_left]
  rw [List.drop_eq_getElem_cons hlist]
  simp

/-- The keywords of adjacent stretches follow one another. -/
theorem keywordStarts_stretch_append (him : i ≤ m) (hmj : m ≤ j) :
    keywordStarts (stretch tokens i j) =
      keywordStarts (stretch tokens i m) ++ keywordStarts (stretch tokens m j) := by
  rw [stretch_append him hmj, keywordStarts, List.filter_append, List.map_append]
  rfl

end

/-! ## Classes among statements -/

/-- The classes of several statements follow one another. -/
theorem classStarts_append (a b : List Stmt) :
    classStarts (a ++ b) = classStarts a ++ classStarts b := by
  simp [classStarts, Stmt.classes, Stmt.preorderAll_append]

/-- A statement that is no class shows the classes inside it. -/
theorem classStarts_singleton {f : Form} {s : Span} {body : List Stmt}
    (hform : (Stmt.mk f s body).isClass = false) :
    classStarts [.mk f s body] = classStarts body := by
  simp [classStarts, Stmt.classes, Stmt.preorderAll, Stmt.preorder, hform]

/-- A class comes before the classes inside it. -/
theorem classStarts_class {name : String} {bases decorators : List Expr} {s : Span}
    {body : List Stmt} :
    classStarts [.mk (.classDef name bases decorators) s body] = s.start :: classStarts body := by
  have hclass : (Stmt.mk (.classDef name bases decorators) s body).isClass = true := rfl
  simp only [classStarts, Stmt.classes, Stmt.preorderAll, Stmt.preorder, List.append_nil,
    List.filter_cons_of_pos hclass, List.map_cons]
  rfl

/-- Decorators move no class. -/
theorem classStarts_decorate (ds : List Expr) (stmts : List Stmt) :
    classStarts (stmts.map (Stmt.decorate ds)) = classStarts stmts := by
  induction stmts with
  | nil => rfl
  | cons s stmts ih =>
    have hhead : classStarts [s.decorate ds] = classStarts [s] := by
      obtain ⟨f, span, body⟩ := s
      cases f with
      | classDef name bases old => rw [Stmt.decorate, classStarts_class, classStarts_class]
      | function name old =>
        rw [Stmt.decorate, classStarts_singleton rfl, classStarts_singleton rfl]
      | importFrom | expression | arm | other => rfl
    rw [List.map_cons, ← List.singleton_append, classStarts_append, hhead, ih,
      ← classStarts_append, List.singleton_append]

/-! ## Classes among trees -/

namespace Tree

/-- The statements of several trees follow one another. -/
theorem allStmts_append (a b : List Tree) : allStmts (a ++ b) = allStmts a ++ allStmts b := by
  induction a with
  | nil => rfl
  | cons t a ih => simp [allStmts, ih]

/-- Kinds of trees whose parts are searched for statements; a class is one too. -/
def isSearched : Kind → Bool
  | .function | .decorated | .compound | .arm => true
  | _ => false

/-- A tree that is searched and no class shows the classes of its parts. -/
theorem classStarts_searched {kind : Kind} (hkind : isSearched kind = true) (s : Span)
    (parts : List Tree) :
    classStarts (toStmts (.node kind s parts)) = classStarts (allStmts parts) := by
  cases kind <;> simp only [isSearched, Bool.false_eq_true] at hkind
  case function => rw [toStmts, classStarts_singleton rfl]
  case decorated => rw [toStmts, classStarts_decorate]
  case compound => rw [toStmts, classStarts_singleton rfl]
  case arm => rw [toStmts, classStarts_singleton rfl]

/-- The tree of a class shows that class, and then those of its parts. -/
theorem classStarts_classDef (s : Span) (parts : List Tree) :
    classStarts (toStmts (.node .classDef s parts)) = s.start :: classStarts (allStmts parts) := by
  rw [toStmts, classStarts_class]

/-- Any other tree shows no class. -/
theorem classStarts_opaque {kind : Kind} (hclass : kind ≠ .classDef)
    (hkind : isSearched kind = false) (s : Span) (parts : List Tree) :
    classStarts (toStmts (.node kind s parts)) = [] := by
  cases kind with
  | classDef => exact absurd rfl hclass
  | function | decorated | compound | arm => cases hkind
  | expressionStatement => cases parts <;> rfl
  | _ => rfl

end Tree

/-! ## What the grammar does with the keyword -/

/-- Rules whose phrases may hold statements with blocks. -/
def Rule.holdsBlocks : Rule → Bool
  | .file | .statements | .statement | .compoundStatement | .block | .functionDef
  | .functionDefRaw | .classDef | .classDefRaw | .ifStatement | .elifStatement | .elseBlock
  | .whileStatement | .forStatement | .withStatement | .tryStatement | .matchStatement
  | .exceptBlock | .exceptStarBlock | .finallyBlock | .caseBlock => true
  | _ => false

/-- Whether a terminal is not the class keyword. -/
def Terminal.sparesClass : Terminal → Bool
  | .word text => text ≠ "class"
  | _ => true

namespace Phrase

/-- Whether a phrase is the class keyword. -/
def isClassWord : Phrase → Bool
  | .terminal (.word text) => text = "class"
  | _ => false

mutual

/-- Whether a phrase never takes the class keyword. -/
def sparesClass : Phrase → Bool
  | .terminal t | .keep t => t.sparesClass
  | .rule r => !r.holdsBlocks
  | .seq ps | .alt ps => allSpareClass ps
  | .commit head body otherwise => sparesClass head && sparesClass body && sparesClass otherwise
  | .optional p | .many p | .many1 p | .node _ p | .checked p _ | .plain p => sparesClass p
  | .sepBy p sep => sparesClass p && sparesClass sep
  | .chain head steps => sparesClass head && stepsSpareClass steps
  | .ahead _ | .notAhead _ | .forced _ | .refuse _ _ | .hint _ => true

/-- The same for several phrases. -/
def allSpareClass : List Phrase → Bool
  | [] => true
  | p :: ps => sparesClass p && allSpareClass ps

/-- The same for the steps of a chain, whose labels are those of expressions. -/
def stepsSpareClass : List (Kind × Phrase) → Bool
  | [] => true
  | (kind, p) :: steps =>
    kind ≠ .classDef && !Tree.isSearched kind && sparesClass p && stepsSpareClass steps

end

mutual

/-- Whether the trees of a phrase show the classes of all keywords it takes. -/
def showsClasses : Phrase → Bool
  | .terminal t | .keep t => t.sparesClass
  | .rule _ => true
  | .seq ps | .alt ps => allShowClasses ps
  | .commit head body otherwise => showsClasses head && showsClasses body && showsClasses otherwise
  | .optional p | .many p | .many1 p | .checked p _ | .plain p => showsClasses p
  | .sepBy p sep => showsClasses p && showsClasses sep
  | .node kind p =>
    if kind = .classDef then beginsClass p
    else if Tree.isSearched kind then showsClasses p
    else sparesClass p
  | .chain head steps => showsClasses head && sparesClass head && stepsSpareClass steps
  | .ahead _ | .notAhead _ | .forced _ | .refuse _ _ | .hint _ => true

/-- The same for several phrases. -/
def allShowClasses : List Phrase → Bool
  | [] => true
  | p :: ps => showsClasses p && allShowClasses ps

/-- Whether a phrase takes the keyword first, and its trees show the classes of all others. -/
def beginsClass : Phrase → Bool
  | .seq (p :: ps) => isClassWord p && allShowClasses ps
  | _ => false

end

/-- Rules without blocks never take the keyword. -/
theorem sparesClass_body {r : Rule} (h : r.holdsBlocks = false) : sparesClass r.body = true := by
  revert h
  cases r <;> decide +kernel

/-- The trees of every rule show the classes of all keywords it takes. -/
theorem showsClasses_body (r : Rule) : showsClasses r.body = true := by
  cases r <;> decide +kernel

/-- What is computed of several parts of a phrase, one after the other, is so of each of them. -/
theorem of_mem_all {α : Type} {f : α → Bool} {g : List α → Bool}
    (hg : ∀ a as, g (a :: as) = (f a && g as)) {a : α} {as : List α} (h : g as = true)
    (ha : a ∈ as) : f a = true := by
  induction as with
  | nil => cases ha
  | cons b as ih =>
    rw [hg, Bool.and_eq_true] at h
    rcases List.mem_cons.mp ha with rfl | ha
    · exact h.1
    · exact ih h.2 ha

/-- Every one of several phrases that spare the keyword spares it. -/
theorem sparesClass_of_mem {p : Phrase} {ps : List Phrase} (h : allSpareClass ps = true)
    (hp : p ∈ ps) : sparesClass p = true :=
  of_mem_all (fun _ _ => rfl) h hp

/-- Every one of several phrases that show their classes shows them. -/
theorem showsClasses_of_mem {p : Phrase} {ps : List Phrase} (h : allShowClasses ps = true)
    (hp : p ∈ ps) : showsClasses p = true :=
  of_mem_all (fun _ _ => rfl) h hp

/-- Every step of a chain that spares the keyword spares it, and its label shows no class. -/
theorem sparesClass_of_mem_steps {kind : Kind} {p : Phrase} {steps : List (Kind × Phrase)}
    (h : stepsSpareClass steps = true) (hp : (kind, p) ∈ steps) :
    kind ≠ .classDef ∧ Tree.isSearched kind = false ∧ sparesClass p = true := by
  induction steps with
  | nil => cases hp
  | cons step steps ih =>
    obtain ⟨kind', q⟩ := step
    simp only [stepsSpareClass, Bool.and_eq_true, decide_eq_true_eq, Bool.not_eq_true'] at h
    rcases List.mem_cons.mp hp with heq | hp
    · cases heq
      exact ⟨h.1.1.1, h.1.1.2, h.1.2⟩
    · exact ih h.2 hp

end Phrase

/-! ## Derivations -/

section
variable {check : Field → Option Fault} {tokens : Array Token} {i m j : Nat} {k : Token}

/-- A terminal that is not the keyword accepts no keyword. -/
theorem Terminal.not_isClassKeyword {t : Terminal} (h : t.sparesClass = true)
    (haccepts : t.accepts k = true) : k.isClassKeyword = false := by
  rw [Bool.eq_false_iff]
  intro hk
  simp only [Token.isClassKeyword, Bool.and_eq_true, decide_eq_true_eq] at hk
  obtain ⟨hkind, htext⟩ := hk
  cases t with
  | word text =>
    simp only [Terminal.accepts, htext, Bool.and_eq_true, decide_eq_true_eq] at haccepts
    simp [Terminal.sparesClass, ← haccepts.2] at h
  | op text => simp [Terminal.accepts, hkind] at haccepts
  | name =>
    have hkeyword : "class" ∈ keywords := by decide
    simp [Terminal.accepts, htext, hkeyword] at haccepts
  | softKeyword =>
    have hkeyword : (softKeywords.any fun s => "class".toList.isPrefixOf s.toList) = false := by
      decide
    simp only [Terminal.accepts, htext, hkeyword, Bool.and_false, Bool.false_eq_true] at haccepts
  | _ => simp [Terminal.accepts, hkind] at haccepts

/-- A token that is no keyword adds none. -/
theorem keywordStarts_one_of_not (hread : tokens[i]? = some k) (hk : k.isClassKeyword = false) :
    keywordStarts (stretch tokens i (i + 1)) = [] := by
  rw [stretch_one hread]
  simp [keywordStarts, hk]

/-- Two adjacent stretches without keywords make one. -/
theorem keywordStarts_join (him : i ≤ m) (hmj : m ≤ j)
    (hfirst : keywordStarts (stretch tokens i m) = [])
    (hrest : keywordStarts (stretch tokens m j) = []) :
    keywordStarts (stretch tokens i j) = [] := by
  rw [keywordStarts_stretch_append him hmj, hfirst, hrest, List.append_nil]

/-- A phrase that spares the keyword takes none. -/
theorem Derives.keywordStarts_eq_nil {p : Phrase} {trees : List Tree}
    (h : Derives language check tokens p i j trees) (hp : Phrase.sparesClass p = true) :
    keywordStarts (stretch tokens i j) = [] := by
  induction h with
  | terminal hread haccepts | keep hread haccepts =>
    exact keywordStarts_one_of_not hread (Terminal.not_isClassKeyword hp haccepts)
  | forced hread haccepts =>
    exact keywordStarts_one_of_not hread (Terminal.not_isClassKeyword rfl haccepts)
  | rule _ ih => exact ih (Phrase.sparesClass_body (by simpa [Phrase.sparesClass] using hp))
  | alt hmem _ ih => exact ih (Phrase.sparesClass_of_mem hp hmem)
  | seqNil | optionalNone | manyNil | ahead | notAhead => exact keywordStarts_stretch_self
  | optionalSome _ ih | node _ ih | checked _ _ ih | plain _ ih => exact ih hp
  | seqCons hfirst hrest ih₁ ih₂ =>
    simp only [Phrase.sparesClass, Phrase.allSpareClass, Bool.and_eq_true] at hp
    exact keywordStarts_join hfirst.le hrest.le (ih₁ hp.1) (ih₂ hp.2)
  | commit hhead hbody ih₁ ih₂ =>
    simp only [Phrase.sparesClass, Bool.and_eq_true] at hp
    exact keywordStarts_join hhead.le hbody.le (ih₁ hp.1.1) (ih₂ hp.1.2)
  | otherwise _ ih =>
    simp only [Phrase.sparesClass, Bool.and_eq_true] at hp
    exact ih hp.2
  | manyCons hfirst hrest ih₁ ih₂ | many1 hfirst hrest ih₁ ih₂ =>
    exact keywordStarts_join hfirst.le hrest.le (ih₁ hp) (ih₂ hp)
  | sepBy hfirst hrest ih₁ ih₂ =>
    simp only [Phrase.sparesClass, Bool.and_eq_true] at hp
    exact keywordStarts_join hfirst.le hrest.le (ih₁ hp.1)
      (ih₂ (by simp [Phrase.sparesClass, Phrase.allSpareClass, hp.1, hp.2]))
  | chainHead _ ih =>
    simp only [Phrase.sparesClass, Bool.and_eq_true] at hp
    exact ih hp.1
  | chainStep hfirst hmem hstep ih₁ ih₂ =>
    have hsteps := hp
    simp only [Phrase.sparesClass, Bool.and_eq_true] at hsteps
    exact keywordStarts_join hfirst.le hstep.le (ih₁ hp)
      (ih₂ (Phrase.sparesClass_of_mem_steps hsteps.2 hmem).2.2)

/-- The label of a stretch begins where its first token begins. -/
theorem spanBetween_start (hread : tokens[i]? = some k) (behind : Nat) :
    (spanBetween tokens i behind).start = k.span.start := by
  simp only [spanBetween, hread]
  cases lastSolid tokens behind <;> rfl

/-- What two adjacent stretches show, one after the other. -/
theorem classStarts_join (him : i ≤ m) (hmj : m ≤ j) {first rest : List Tree}
    (hfirst : classStarts (Tree.allStmts first) = keywordStarts (stretch tokens i m))
    (hrest : classStarts (Tree.allStmts rest) = keywordStarts (stretch tokens m j)) :
    classStarts (Tree.allStmts (first ++ rest)) = keywordStarts (stretch tokens i j) := by
  rw [Tree.allStmts_append, classStarts_append, keywordStarts_stretch_append him hmj, hfirst, hrest]

/-- One tree shows what its statements show. -/
theorem classStarts_allStmts_singleton (t : Tree) :
    classStarts (Tree.allStmts [t]) = classStarts t.toStmts := by
  rw [Tree.allStmts, Tree.allStmts, List.append_nil]

/-- A phrase that begins a class takes the keyword, and then what it shows. -/
theorem Derives.keyword_of_isClassWord {p : Phrase} {trees : List Tree}
    (h : Derives language check tokens p i j trees) (hp : Phrase.isClassWord p = true) :
    trees = [] ∧ ∃ k, tokens[i]? = some k ∧ keywordStarts (stretch tokens i j) = [k.span.start] := by
  cases h with
  | terminal hread haccepts =>
    rename_i t k
    refine ⟨rfl, k, hread, ?_⟩
    cases t with
    | word text =>
      simp only [Phrase.isClassWord, decide_eq_true_eq] at hp
      subst hp
      have hk : k.isClassKeyword = true := haccepts
      rw [stretch_one hread]
      simp [keywordStarts, hk]
    | _ => cases hp
  | _ => cases hp

/-- The trees of a phrase show the classes of the keywords it takes; a phrase that begins a class
takes one keyword more, and takes it first. -/
theorem Derives.classStarts_eq {p : Phrase} {trees : List Tree}
    (h : Derives language check tokens p i j trees) :
    (Phrase.showsClasses p = true →
      classStarts (Tree.allStmts trees) = keywordStarts (stretch tokens i j)) ∧
    (Phrase.beginsClass p = true → ∃ k, tokens[i]? = some k ∧
      k.span.start :: classStarts (Tree.allStmts trees) = keywordStarts (stretch tokens i j)) := by
  induction h with
  | terminal hread haccepts | keep hread haccepts =>
    refine ⟨fun hp => ?_, nofun⟩
    rw [keywordStarts_one_of_not hread (Terminal.not_isClassKeyword hp haccepts)]
    rfl
  | forced hread haccepts =>
    refine ⟨fun _ => ?_, nofun⟩
    rw [keywordStarts_one_of_not hread (Terminal.not_isClassKeyword rfl haccepts)]
    rfl
  | rule _ ih => exact ⟨fun _ => ih.1 (Phrase.showsClasses_body _), nofun⟩
  | alt hmem _ ih => exact ⟨fun hp => ih.1 (Phrase.showsClasses_of_mem hp hmem), nofun⟩
  | seqNil | optionalNone | manyNil | ahead | notAhead =>
    exact ⟨fun _ => keywordStarts_stretch_self.symm, nofun⟩
  | optionalSome _ ih | checked _ _ ih | plain _ ih => exact ⟨ih.1, nofun⟩
  | seqCons hfirst hrest ih₁ ih₂ =>
    refine ⟨fun hp => ?_, fun hp => ?_⟩
    · simp only [Phrase.showsClasses, Phrase.allShowClasses, Bool.and_eq_true] at hp
      exact classStarts_join hfirst.le hrest.le (ih₁.1 hp.1) (ih₂.1 hp.2)
    · simp only [Phrase.beginsClass, Bool.and_eq_true] at hp
      obtain ⟨rfl, k, hread, hkeyword⟩ := hfirst.keyword_of_isClassWord hp.1
      refine ⟨k, hread, ?_⟩
      rw [keywordStarts_stretch_append hfirst.le hrest.le, hkeyword, List.nil_append, ih₂.1 hp.2,
        List.singleton_append]
  | commit hhead hbody ih₁ ih₂ =>
    refine ⟨fun hp => ?_, nofun⟩
    simp only [Phrase.showsClasses, Bool.and_eq_true] at hp
    exact classStarts_join hhead.le hbody.le (ih₁.1 hp.1.1) (ih₂.1 hp.1.2)
  | otherwise _ ih =>
    refine ⟨fun hp => ?_, nofun⟩
    simp only [Phrase.showsClasses, Bool.and_eq_true] at hp
    exact ih.1 hp.2
  | manyCons hfirst hrest ih₁ ih₂ | many1 hfirst hrest ih₁ ih₂ =>
    exact ⟨fun hp => classStarts_join hfirst.le hrest.le (ih₁.1 hp) (ih₂.1 hp), nofun⟩
  | sepBy hfirst hrest ih₁ ih₂ =>
    refine ⟨fun hp => ?_, nofun⟩
    simp only [Phrase.showsClasses, Bool.and_eq_true] at hp
    exact classStarts_join hfirst.le hrest.le (ih₁.1 hp.1)
      (ih₂.1 (by simp [Phrase.showsClasses, Phrase.allShowClasses, hp.1, hp.2]))
  | node hp' ih =>
    rename_i kind p i j parts
    refine ⟨fun hp => ?_, nofun⟩
    simp only [Phrase.showsClasses] at hp
    rw [classStarts_allStmts_singleton]
    split at hp
    · rename_i hclass
      obtain ⟨k, hread, hstarts⟩ := ih.2 hp
      rw [hclass, Tree.classStarts_classDef, spanBetween_start hread, hstarts]
    · rename_i hclass
      split at hp
      · rename_i hsearched
        rw [Tree.classStarts_searched hsearched, ih.1 hp]
      · rename_i hsearched
        rw [Tree.classStarts_opaque hclass (by simpa using hsearched), hp'.keywordStarts_eq_nil hp]
  | chainHead _ ih =>
    refine ⟨fun hp => ?_, nofun⟩
    simp only [Phrase.showsClasses, Bool.and_eq_true] at hp
    exact ih.1 hp.1.1
  | chainStep hfirst hmem hstep _ _ =>
    refine ⟨fun hp => ?_, nofun⟩
    simp only [Phrase.showsClasses, Bool.and_eq_true] at hp
    obtain ⟨hclass, hsearched, hspares⟩ := Phrase.sparesClass_of_mem_steps hp.2 hmem
    have hchain := hfirst.keywordStarts_eq_nil (by simp [Phrase.sparesClass, hp.1.2, hp.2])
    rw [classStarts_allStmts_singleton, Tree.classStarts_opaque hclass hsearched,
      keywordStarts_join hfirst.le hstep.le hchain (hstep.keywordStarts_eq_nil hspares)]

end

/-- A program reaches to the end of its tokens. -/
theorem Derives.file_end {check : Field → Option Fault} {t : SourceText} {j : Nat}
    {trees : List Tree} (h : Derives language check t.tokens.tokens (.rule .file) 0 j trees) :
    j = t.tokens.tokens.size := by
  cases h with
  | rule hbody =>
    cases hbody with
    | seqCons _ hrest =>
      cases hrest with
      | seqCons hmarker hnil =>
        cases hnil
        cases hmarker with
        | terminal hread haccepts => exact t.endMarker_last hread (of_decide_eq_true haccepts)

/-- The statements of a program are those of the trees in a derivation. -/
theorem exists_derives_of_parse {source : List Char} {stmts : List Stmt}
    (h : parse source = .ok stmts) :
    ∃ j trees, Derives language (language.fieldCheck (SourceText.ofSource source))
        (SourceText.ofSource source).tokens.tokens (.rule .file) 0 j trees ∧
      Tree.allStmts trees = stmts := by
  simp only [parse] at h
  cases hparse : language.parse (SourceText.ofSource source) with
  | error fault => simp [hparse, Except.map] at h
  | ok trees =>
    simp only [hparse, Except.map, Except.ok.injEq] at h
    obtain ⟨j, hderives⟩ := Grammar.parse_derives hparse
    exact ⟨j, trees, hderives, h⟩

/-- The classes of a program, in pre-order, begin at the class keywords of its text, in order. -/
theorem parse_classStarts {source : List Char} {stmts : List Stmt}
    (h : parse source = .ok stmts) :
    classStarts stmts = keywordStarts (SourceText.ofSource source).tokens.tokens.toList := by
  obtain ⟨j, trees, hderives, rfl⟩ := exists_derives_of_parse h
  have hj := hderives.file_end
  rw [hderives.classStarts_eq.1 rfl, hj]
  simp [stretch, ← Array.length_toList]

end NodeLint.Source
