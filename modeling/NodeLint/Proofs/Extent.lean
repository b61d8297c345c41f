import NodeLint.Pragma.StatementRange
import NodeLint.Proofs.Gap
import NodeLint.Proofs.Phrase

/-!
# The extent of statements

The lines of a statement reach from the line it is introduced on, for a decorated definition that of
its first decorator, to the line of its last token. Every token of a program is on such lines, but
for the semicolons between statements, the signs before decorators, and the parentheses that a
decorator begins with.

As for the keywords of classes, the grammar is looked at once: labels of statements are put on
stretches with a token, decorators on definitions, and everything else that a rule of statements
takes is layout or loose.
-/

namespace NodeLint.Source

/-! ## Tokens by their positions -/

section
variable {tokens : Array Token} {i j x y : Nat} {a b k : Token}

/-- Tokens further on are on no earlier lines. -/
theorem Ordered.le (h : Ordered tokens.toList) (hxy : x ≤ y) (ha : tokens[x]? = some a)
    (hb : tokens[y]? = some b) : a.span.line ≤ b.span.line ∧ a.span.endLine ≤ b.span.endLine := by
  rcases Nat.lt_or_eq_of_le hxy with hlt | rfl
  · obtain ⟨hx, rfl⟩ := Array.getElem?_eq_some_iff.mp ha
    obtain ⟨hy, rfl⟩ := Array.getElem?_eq_some_iff.mp hb
    have hnext := List.pairwise_iff_getElem.mp h.pairwise x y (by simpa using hx)
      (by simpa using hy) hlt
    have hx' := h.line_le tokens[x] (by simp)
    have hy' := h.line_le tokens[y] (by simp)
    simp only [Array.getElem_toList] at hnext
    omega
  · rw [Option.some.inj (ha.symm.trans hb)]
    exact ⟨Nat.le_refl _, Nat.le_refl _⟩

/-- Before a position behind a solid token there is a last one, at that token or behind it. -/
theorem lastSolid_of_lt (hx : x < j) (hk : tokens[x]? = some k) (hsolid : k.isLayout = false) :
    ∃ y b, x ≤ y ∧ tokens[y]? = some b ∧ lastSolid tokens j = some b := by
  induction j with
  | zero => exact absurd hx (Nat.not_lt_zero x)
  | succ j ih =>
    rw [lastSolid]
    rcases Nat.lt_or_eq_of_le (Nat.le_of_lt_succ hx) with hlt | rfl
    · cases hj : tokens[j]? with
      | none => exact ih hlt
      | some b =>
        cases hb : b.isLayout with
        | true => simpa [hb] using ih hlt
        | false => exact ⟨j, b, Nat.le_of_lt hlt, hj, by simp [hb]⟩
    · exact ⟨x, k, Nat.le_refl x, hk, by simp [hk, hsolid]⟩

/-- A stretch of tokens ends on no earlier line than any solid token before its end. -/
theorem endLine_le_spanBetween (h : Ordered tokens.toList) (ha : tokens[i]? = some a) (hxj : x < j)
    (hk : tokens[x]? = some k) (hsolid : k.isLayout = false) :
    k.span.endLine ≤ (spanBetween tokens i j).endLine := by
  obtain ⟨y, b, hxy, hb, hlast⟩ := lastSolid_of_lt hxj hk hsolid
  simp only [spanBetween, ha, hlast]
  exact (h.le hxy hk hb).2

/-- A stretch of tokens covers the solid ones among them. -/
theorem spanBetween_covers (h : Ordered tokens.toList) (hix : i ≤ x) (hxj : x < j)
    (hk : tokens[x]? = some k) (hsolid : k.isLayout = false) :
    (spanBetween tokens i j).line ≤ k.span.line ∧
      k.span.endLine ≤ (spanBetween tokens i j).endLine := by
  have hsize := (Array.getElem?_eq_some_iff.mp hk).1
  have ha : tokens[i]? = some tokens[i] := Array.getElem?_eq_getElem (by omega)
  have hstart : (spanBetween tokens i j).line = tokens[i].span.line :=
    congrArg Prod.fst (spanBetween_start ha j)
  rw [hstart]
  exact ⟨(h.le hix ha hk).1, endLine_le_spanBetween h ha hxj hk hsolid⟩

end

/-! ## Statements and their lines -/

namespace Stmt

/-- A line belongs to a statement if it is neither before all lines that the statement is introduced
on nor behind its last. -/
def Owns (s : Stmt) (line : Nat) : Prop :=
  ∃ first ∈ StatementRanges.introducing s, first ≤ line ∧ line ≤ s.endLine

instance (s : Stmt) (line : Nat) : Decidable (s.Owns line) :=
  inferInstanceAs (Decidable (∃ first ∈ StatementRanges.introducing s, _))

/-- A statement is introduced before it ends. -/
def IsPlaced (s : Stmt) : Prop := ∀ first ∈ StatementRanges.introducing s, first ≤ s.endLine

end Stmt

/-- Kinds of trees that stand for one statement of the same extent. -/
def Kind.isStatement : Kind → Bool
  | .function | .classDef | .importFrom | .simple | .compound => true
  | _ => false

namespace Tree

/-- Such a tree stands for one statement. -/
theorem toStmts_of_isStatement {kind : Kind} (h : kind.isStatement = true) (s : Span)
    (parts : List Tree) :
    ∃ form body, toStmts (.node kind s parts) = [.mk form s body] ∧ form ≠ .arm := by
  cases kind with
  | function | classDef | importFrom | simple | compound => exact ⟨_, _, rfl, nofun⟩
  | _ => cases h

/-- What a tree stands for is a statement of its extent, or one of its parts. -/
theorem mem_preorderAll_toStmts {kind : Kind} (hkind : kind ≠ .decorated) {s : Span}
    {parts : List Tree} {st : Stmt} (h : st ∈ Stmt.preorderAll (toStmts (.node kind s parts))) :
    (st.span = s ∧ st.decorators = []) ∨ st ∈ Stmt.preorderAll (allStmts parts) := by
  have hone {form : Form} {body : List Stmt} (hform : (Stmt.mk form s body).decorators = [])
      (h : st ∈ Stmt.preorderAll [.mk form s body]) :
      (st.span = s ∧ st.decorators = []) ∨ st ∈ Stmt.preorderAll body := by
    simp only [Stmt.preorderAll, Stmt.preorder, List.append_nil, List.mem_cons] at h
    rcases h with rfl | h
    · exact Or.inl ⟨rfl, hform⟩
    · exact Or.inr h
  cases kind with
  | decorated => exact absurd rfl hkind
  | function | classDef | compound | arm => exact hone rfl h
  | importFrom | simple => exact (hone rfl h).imp_right nofun
  | expressionStatement =>
    cases parts with
    | nil => cases h
    | cons value rest => exact (hone rfl h).imp_right nofun
  | _ => cases h

/-- An expression is where its tree is. -/
theorem span_toExpr (t : Tree) : t.toExpr.span = t.span := by
  unfold toExpr
  split <;> rfl

/-- The first line of decorators is that of one of them, and none is on an earlier line. -/
theorem firstLine?_map_toExpr {trees : List Tree} {t : Tree} (ht : t ∈ trees) :
    ∃ first, StatementRanges.firstLine? (trees.map toExpr) = some first ∧ first ≤ t.span.line := by
  have hline : t.span.line ∈ (trees.map toExpr).map fun e => e.span.line := by
    rw [List.map_map, List.mem_map]
    exact ⟨t, ht, by rw [Function.comp_apply, span_toExpr]⟩
  rw [StatementRanges.firstLine?]
  cases hmin : ((trees.map toExpr).map fun e => e.span.line).min? with
  | none =>
    rw [List.min?_eq_none_iff.mp hmin] at hline
    cases hline
  | some first => exact ⟨first, rfl, (List.min?_eq_some_iff.mp hmin).2 _ hline⟩

/-- A decorated definition is the definition with the decorators before it. -/
theorem toStmts_decorated {kind : Kind} (hkind : kind = .function ∨ kind = .classDef)
    {decorators : List Tree} (hnone : allStmts decorators = []) (s s' : Span) (inner : List Tree) :
    ∃ form, toStmts (.node .decorated s (decorators ++ [.node kind s' inner])) =
        [.mk form s' (allStmts inner)] ∧
      StatementRanges.introducing (.mk form s' (allStmts inner)) =
        s'.line :: (StatementRanges.firstLine? (decorators.map toExpr)).toList := by
  rcases hkind with rfl | rfl
  · refine ⟨.function (definedName inner) (decorators.map toExpr), ?_, rfl⟩
    rw [toStmts, allStmts_append, hnone, List.dropLast_concat]
    rfl
  · refine ⟨.classDef (definedName inner) (baseExprs inner) (decorators.map toExpr), ?_, rfl⟩
    rw [toStmts, allStmts_append, hnone, List.dropLast_concat]
    rfl

end Tree

/-! ## Decorated definitions -/

/-- One decorator: its sign, an expression, and the end of the line. -/
def Phrase.isDecorator : Phrase → Bool
  | .seq [.terminal (.op sign), .rule r, .terminal .newline] => sign = "@" && r.isExpression
  | _ => false

/-- Decorators, and the definition behind them. -/
def Phrase.isDecoration : Phrase → Bool
  | .seq [.many1 p, .rule r] => isDecorator p && (r = .functionDefRaw || r = .classDefRaw)
  | _ => false

/-- Tokens that may stand on lines of no statement: semicolons, and what stands before the
expression of a decorator. -/
def Token.isLoose (k : Token) : Bool :=
  k.kind = .op && (k.text = ";" || k.text = "@" || k.text = "(")

section
variable {check : Field → Option Fault} {tokens : Array Token} {i m j : Nat} {p : Phrase}
  {trees : List Tree}

/-- A decorator is one expression, and only loose tokens stand before it. -/
theorem Derives.decorator (h : Derives language check tokens p i j trees)
    (hp : Phrase.isDecorator p = true) :
    Tree.allStmts trees = [] ∧ ∃ t ∈ trees, ∃ x k, i ≤ x ∧ x < j ∧ tokens[x]? = some k ∧
      t.span.line = k.span.line ∧
      ∀ y, i ≤ y → y < x → ∃ a, tokens[y]? = some a ∧ a.isLoose = true := by
  unfold Phrase.isDecorator at hp
  split at hp
  · rename_i sign r
    simp only [Bool.and_eq_true, decide_eq_true_eq] at hp
    obtain ⟨rfl, hr⟩ := hp
    cases h with
    | seqCons hsign hrest =>
      cases hsign with
      | @terminal _ a _ hread haccepts =>
        cases hrest with
        | seqCons hexpr hrest =>
          cases hrest with
          | seqCons hline hnil =>
            cases hnil
            cases hline
            obtain ⟨t, x, k, rfl, htree, hix, hxj, hk, hline, hbefore⟩ := hexpr.leavesOne hr
            have hnone : Tree.allStmts [t] = [] := by simp [Tree.allStmts, htree]
            refine ⟨hnone, t, by simp, x, k, by omega, by omega, hk, hline, ?_⟩
            intro y hiy hyx
            rcases Nat.lt_or_eq_of_le hiy with hlt | rfl
            · obtain ⟨b, hb, hkind, htext⟩ := hbefore y hlt hyx
              exact ⟨b, hb, by simp [Token.isLoose, hkind, htext]⟩
            · simp only [Terminal.accepts, Bool.and_eq_true, decide_eq_true_eq] at haccepts
              exact ⟨a, hread, by simp [Token.isLoose, haccepts]⟩
  · cases hp

/-- Further decorators stand for no statement. -/
theorem Derives.decorators (h : Derives language check tokens (.many p) i j trees)
    (hp : Phrase.isDecorator p = true) : Tree.allStmts trees = [] := by
  generalize hq : Peg.many p = q at h
  induction h with
  | manyNil => rfl
  | manyCons hfirst _ _ ih =>
    obtain rfl := Peg.many.inj hq
    rw [Tree.allStmts_append, (hfirst.decorator hp).1, ih rfl, List.append_nil]
  | _ => cases hq

/-- A definition is one tree, of the extent of its tokens. -/
theorem Derives.definition {r : Rule} (h : Derives language check tokens (.rule r) i j trees)
    (hr : r = .functionDefRaw ∨ r = .classDefRaw) :
    ∃ kind inner, (kind = .function ∨ kind = .classDef) ∧
      trees = [.node kind (spanBetween tokens i j) inner] := by
  cases h with
  | rule hbody =>
    rcases hr with rfl | rfl
    · cases hbody with
      | alt hmem hp =>
        simp only [List.mem_cons, List.not_mem_nil, or_false] at hmem
        rcases hmem with rfl | rfl | rfl
        · cases hp
        · cases hp
          exact ⟨_, _, Or.inl rfl, rfl⟩
        · cases hp
          exact ⟨_, _, Or.inl rfl, rfl⟩
    · cases hbody with
      | alt hmem hp =>
        simp only [List.mem_cons, List.not_mem_nil, or_false] at hmem
        rcases hmem with rfl | rfl | rfl
        · cases hp
        · cases hp
        · cases hp
          exact ⟨_, _, Or.inr rfl, rfl⟩

/-- A decorated definition ends with the last token. It is introduced on its own first line and on
that of its decorators, which is no later one, and no token is before this line but loose ones. -/
theorem Derives.decorated (hordered : Ordered tokens.toList)
    (h : Derives language check tokens p i j trees) (hp : Phrase.isDecoration p = true) (s : Span) :
    ∃ st m first, Tree.toStmts (.node .decorated s trees) = [st] ∧
      st.span = spanBetween tokens m j ∧ i ≤ m ∧ HasSolid tokens m j ∧
      (∀ inner ∈ Stmt.preorderAll st.body, inner ∈ Stmt.preorderAll (Tree.allStmts trees)) ∧
      StatementRanges.introducing st = [st.line, first] ∧ first ≤ st.line ∧
      ∀ x k, i ≤ x → tokens[x]? = some k → k.isLoose = false → first ≤ k.span.line := by
  unfold Phrase.isDecoration at hp
  split at hp
  · rename_i p r
    simp only [Bool.and_eq_true, Bool.or_eq_true, decide_eq_true_eq] at hp
    cases h with
    | @seqCons _ _ _ m _ _ _ hdecorators hrest =>
      cases hrest with
      | seqCons hdefinition hnil =>
        cases hnil
        cases hdecorators with
        | @many1 _ _ n _ one more hone hmore =>
          obtain ⟨honeNone, t, ht, x, k, hix, hxn, hk, hline, hloose⟩ := hone.decorator hp.1
          obtain ⟨kind, inner, hkind, rfl⟩ := hdefinition.definition hp.2
          have hnone : Tree.allStmts (one ++ more) = [] := by
            rw [Tree.allStmts_append, honeNone, hmore.decorators hp.1, List.nil_append]
          have hsolid : HasSolid tokens m j :=
            hdefinition.hasSolid (by rcases hp.2 with rfl | rfl <;> rfl)
          obtain ⟨first, hfirst, hle⟩ := Tree.firstLine?_map_toExpr (List.mem_append_left more ht)
          obtain ⟨form, hstmts, hintro⟩ :=
            Tree.toStmts_decorated hkind hnone s (spanBetween tokens m j) inner
          rw [hfirst] at hintro
          have him : i ≤ m := Nat.le_trans hone.le hmore.le
          refine ⟨_, m, first, hstmts, rfl, him, hsolid, ?_, hintro, ?_, ?_⟩
          · intro st hst
            rw [List.append_nil, Tree.allStmts_append, hnone, List.nil_append]
            rcases hkind with rfl | rfl
            · exact List.mem_cons_of_mem _ (List.mem_append_left _ hst)
            · exact List.mem_cons_of_mem _ (List.mem_append_left _ hst)
          · obtain ⟨a, ha⟩ := hsolid.exists_first
            have hstart : (spanBetween tokens m j).line = a.span.line :=
              congrArg Prod.fst (spanBetween_start ha j)
            have hnm := hmore.le
            have hka := (hordered.le (by omega : x ≤ m) hk ha).1
            change first ≤ (spanBetween tokens m j).line
            omega
          · intro y b hiy hb hstrict
            have hxy : x ≤ y := by
              by_contra hyx
              obtain ⟨c, hc, hcLoose⟩ := hloose y hiy (by omega)
              rw [Option.some.inj (hb.symm.trans hc), hcLoose] at hstrict
              cases hstrict
            have hkb := (hordered.le hxy hk hb).1
            omega
  · cases hp

end

/-! ## Statements are introduced before they end -/

namespace Phrase

mutual

/-- Whether labels of statements are put on solid tokens only, and decorators on definitions. -/
def placesStmts : Phrase → Bool
  | .seq ps | .alt ps => allPlaceStmts ps
  | .commit head body otherwise => placesStmts head && placesStmts body && placesStmts otherwise
  | .optional p | .many p | .many1 p | .checked p _ | .plain p => placesStmts p
  | .sepBy p sep => placesStmts p && placesStmts sep
  | .node kind p => placesStmts p && (if kind = .decorated then isDecoration p else takes p)
  | .chain head steps => placesStmts head && stepsAreExpressions steps
  | .terminal _ | .keep _ | .rule _ | .ahead _ | .notAhead _ | .forced _ | .refuse _ _
  | .hint _ => true

/-- The same for several phrases. -/
def allPlaceStmts : List Phrase → Bool
  | [] => true
  | p :: ps => placesStmts p && allPlaceStmts ps

end

/-- All rules place their statements. -/
theorem placesStmts_body (r : Rule) : placesStmts r.body = true := by
  cases r <;> decide +kernel

/-- Every one of several phrases that place their statements places them. -/
theorem placesStmts_of_mem {p : Phrase} {ps : List Phrase} (h : allPlaceStmts ps = true)
    (hp : p ∈ ps) : placesStmts p = true :=
  of_mem_all (fun _ _ => rfl) h hp

end Phrase

section
variable {check : Field → Option Fault} {tokens : Array Token} {i j : Nat} {p : Phrase}
  {trees : List Tree}

/-- All statements of trees, at any depth, are introduced before they end. -/
def AllPlaced (trees : List Tree) : Prop :=
  ∀ st ∈ Stmt.preorderAll (Tree.allStmts trees), st.IsPlaced

/-- So are those of trees one after the other. -/
theorem AllPlaced.append {first rest : List Tree} (hfirst : AllPlaced first)
    (hrest : AllPlaced rest) : AllPlaced (first ++ rest) := by
  intro st hst
  rw [Tree.allStmts_append, Stmt.preorderAll_append, List.mem_append] at hst
  exact hst.elim (hfirst st) (hrest st)

/-- A stretch with a solid token begins before it ends. -/
theorem HasSolid.line_le (hordered : Ordered tokens.toList) (h : HasSolid tokens i j) :
    (spanBetween tokens i j).line ≤ (spanBetween tokens i j).endLine := by
  obtain ⟨x, k, hix, hxj, hk, hsolid⟩ := h
  obtain ⟨hline, hend⟩ := spanBetween_covers hordered hix hxj hk hsolid
  have hle := hordered.line_le k (Array.mem_toList_iff.mpr (Array.mem_of_getElem? hk))
  omega

/-- The statements of a derivation are introduced before they end. -/
theorem Derives.allPlaced (hordered : Ordered tokens.toList)
    (h : Derives language check tokens p i j trees) (hp : Phrase.placesStmts p = true) :
    AllPlaced trees := by
  induction h with
  | terminal | keep | forced | seqNil | optionalNone | manyNil | ahead | notAhead => nofun
  | rule _ ih => exact ih (Phrase.placesStmts_body _)
  | alt hmem _ ih => exact ih (Phrase.placesStmts_of_mem hp hmem)
  | optionalSome _ ih | checked _ _ ih | plain _ ih => exact ih hp
  | seqCons _ _ ih₁ ih₂ =>
    simp only [Phrase.placesStmts, Phrase.allPlaceStmts, Bool.and_eq_true] at hp
    exact (ih₁ hp.1).append (ih₂ hp.2)
  | commit _ _ ih₁ ih₂ =>
    simp only [Phrase.placesStmts, Bool.and_eq_true] at hp
    exact (ih₁ hp.1.1).append (ih₂ hp.1.2)
  | otherwise _ ih =>
    simp only [Phrase.placesStmts, Bool.and_eq_true] at hp
    exact ih hp.2
  | manyCons _ _ ih₁ ih₂ | many1 _ _ ih₁ ih₂ => exact (ih₁ hp).append (ih₂ hp)
  | sepBy _ _ ih₁ ih₂ =>
    simp only [Phrase.placesStmts, Bool.and_eq_true] at hp
    exact (ih₁ hp.1).append
      (ih₂ (by simp [Phrase.placesStmts, Phrase.allPlaceStmts, hp.1, hp.2]))
  | chainHead _ ih =>
    simp only [Phrase.placesStmts, Bool.and_eq_true] at hp
    exact ih hp.1
  | chainStep _ hmem _ _ _ =>
    simp only [Phrase.placesStmts, Bool.and_eq_true] at hp
    intro st hst
    rw [Tree.allStmts, Tree.allStmts, List.append_nil,
      Tree.toStmts_of_isExpression (Phrase.isExpression_of_mem hp.2 hmem)] at hst
    cases hst
  | @node kind q i j parts hbody ih =>
    simp only [Phrase.placesStmts, Bool.and_eq_true] at hp
    intro st hst
    rw [Tree.allStmts, Tree.allStmts, List.append_nil] at hst
    by_cases hkind : kind = .decorated
    · subst hkind
      rw [if_pos rfl] at hp
      obtain ⟨definition, m, first, hstmts, hspan, -, hsolid, hinner, hintro, hfirst, -⟩ :=
        hbody.decorated hordered hp.2 (spanBetween tokens i j)
      have hle := hsolid.line_le hordered
      rw [← hspan] at hle
      rw [hstmts, Stmt.preorderAll, Stmt.preorderAll, List.append_nil] at hst
      obtain ⟨form, span, body⟩ := definition
      rw [Stmt.preorder, List.mem_cons] at hst
      rcases hst with rfl | hst
      · intro line hline
        rw [hintro, List.mem_cons, List.mem_singleton] at hline
        rcases hline with rfl | rfl
        · exact hle
        · exact Nat.le_trans hfirst hle
      · exact ih hp.1 st (hinner st hst)
    · rw [if_neg hkind] at hp
      rcases Tree.mem_preorderAll_toStmts hkind hst with ⟨hspan, hdecorators⟩ | hst
      · intro line hline
        have hle := (hbody.hasSolid hp.2).line_le hordered
        rw [← hspan] at hle
        obtain rfl : line = st.line := by
          rw [StatementRanges.introducing, hdecorators] at hline
          split at hline
          · simpa [StatementRanges.firstLine?] using hline
          · cases hline
        exact hle
      · exact ih hp.1 st hst

end

/-! ## Statements cover their tokens -/

/-- Rules whose trees are statements, one after the other. -/
def Rule.isStatement : Rule → Bool
  | .file | .statements | .statement | .simpleStatements | .simpleStatement | .compoundStatement
  | .assignment | .functionDef | .functionDefRaw | .classDef | .classDefRaw | .ifStatement
  | .whileStatement | .forStatement | .withStatement | .tryStatement | .matchStatement => true
  | _ => false

namespace Phrase

mutual

/-- Whether the statements of a phrase cover all solid tokens that it takes, but loose ones. -/
def covers : Phrase → Bool
  | .terminal t | .keep t => t.isLayout || t = .op ";"
  | .rule r => r.isStatement
  | .seq ps | .alt ps => allCover ps
  | .optional p | .many p | .many1 p | .checked p _ | .plain p => covers p
  | .sepBy p sep => covers p && covers sep
  | .node kind p => kind.isStatement || (kind = .expressionStatement && leavesOne p) ||
      (kind = .decorated && isDecoration p)
  | .ahead _ | .notAhead _ | .refuse _ _ | .hint _ => true
  | .commit _ _ _ | .forced _ | .chain _ _ => false

/-- The same for several phrases. -/
def allCover : List Phrase → Bool
  | [] => true
  | p :: ps => covers p && allCover ps

end

/-- The statements of a rule of statements cover its tokens. -/
theorem covers_body {r : Rule} (h : r.isStatement = true) : covers r.body = true := by
  revert h
  cases r <;> decide +kernel

/-- Every one of several phrases that cover their tokens covers them. -/
theorem covers_of_mem {p : Phrase} {ps : List Phrase} (h : allCover ps = true) (hp : p ∈ ps) :
    covers p = true :=
  of_mem_all (fun _ _ => rfl) h hp

end Phrase

/-- A token is loose, or on the lines of one of several statements. -/
def Token.CoveredBy (stmts : List Stmt) (k : Token) : Prop :=
  k.isLoose = true ∨ ∃ st ∈ stmts, ∃ first ∈ StatementRanges.introducing st,
    first ≤ k.span.line ∧ k.span.endLine ≤ st.endLine

section
variable {check : Field → Option Fault} {tokens : Array Token} {i m j : Nat} {k : Token}
  {p : Phrase} {trees : List Tree}

/-- More statements cover no fewer tokens. -/
theorem Token.CoveredBy.mono {stmts stmts' : List Stmt} (h : k.CoveredBy stmts)
    (hsub : ∀ st ∈ stmts, st ∈ stmts') : k.CoveredBy stmts' := by
  rcases h with hloose | ⟨st, hst, hfirst⟩
  · exact Or.inl hloose
  · exact Or.inr ⟨st, hsub st hst, hfirst⟩

/-- The statements of trees cover the solid tokens of a stretch. -/
def AllCovered (tokens : Array Token) (i j : Nat) (trees : List Tree) : Prop :=
  ∀ x k, i ≤ x → x < j → tokens[x]? = some k → k.isLayout = false →
    k.CoveredBy (Tree.allStmts trees)

/-- The same for adjacent stretches. -/
theorem AllCovered.append {first rest : List Tree} (hfirst : AllCovered tokens i m first)
    (hrest : AllCovered tokens m j rest) : AllCovered tokens i j (first ++ rest) := by
  intro x k hix hxj hk hsolid
  rw [Tree.allStmts_append]
  by_cases hxm : x < m
  · exact (hfirst x k hix hxm hk hsolid).mono fun st hst => List.mem_append_left _ hst
  · exact (hrest x k (by omega) hxj hk hsolid).mono fun st hst => List.mem_append_right _ hst

/-- An empty stretch has no tokens. -/
theorem AllCovered.empty : AllCovered tokens i i trees := by
  intro x k hix hxi
  omega

/-- A token of the layout is not solid, and a semicolon is loose. -/
theorem AllCovered.one {t : Terminal} (ht : t.isLayout = true ∨ t = .op ";")
    (hread : tokens[i]? = some k) (haccepts : t.accepts k = true) :
    AllCovered tokens i (i + 1) trees := by
  intro x a hix hxi ha hsolid
  obtain rfl : x = i := by omega
  obtain rfl := Option.some.inj (hread.symm.trans ha)
  rcases ht with ht | rfl
  · cases t <;> simp_all [Terminal.isLayout, Terminal.accepts, Token.isLayout]
  · simp only [Terminal.accepts, Bool.and_eq_true, decide_eq_true_eq] at haccepts
    exact Or.inl (by simp [Token.isLoose, haccepts])

/-- A statement that spans a stretch covers it. -/
theorem AllCovered.node (hordered : Ordered tokens.toList) {kind : Kind} {form : Form}
    {body : List Stmt} {parts : List Tree}
    (hstmts : Tree.toStmts (.node kind (spanBetween tokens i j) parts) =
      [.mk form (spanBetween tokens i j) body]) (hform : form ≠ .arm) :
    AllCovered tokens i j [.node kind (spanBetween tokens i j) parts] := by
  intro x k hix hxj hk hsolid
  obtain ⟨hline, hend⟩ := spanBetween_covers hordered hix hxj hk hsolid
  rw [Tree.allStmts, Tree.allStmts, List.append_nil, hstmts]
  refine Or.inr ⟨_, List.mem_singleton_self _, _, ?_, hline, hend⟩
  simp [StatementRanges.introducing, Stmt.isStatement, Stmt.form, hform, Stmt.line, Stmt.span]

/-- The statements of a derivation cover its solid tokens. -/
theorem Derives.allCovered (hordered : Ordered tokens.toList)
    (h : Derives language check tokens p i j trees) (hp : Phrase.covers p = true) :
    AllCovered tokens i j trees := by
  induction h with
  | terminal hread haccepts | keep hread haccepts =>
    exact .one (by simpa [Phrase.covers] using hp) hread haccepts
  | seqNil | optionalNone | manyNil | ahead | notAhead => exact .empty
  | rule _ ih => exact ih (Phrase.covers_body hp)
  | alt hmem _ ih => exact ih (Phrase.covers_of_mem hp hmem)
  | optionalSome _ ih | checked _ _ ih | plain _ ih => exact ih hp
  | seqCons _ _ ih₁ ih₂ =>
    simp only [Phrase.covers, Phrase.allCover, Bool.and_eq_true] at hp
    exact (ih₁ hp.1).append (ih₂ hp.2)
  | manyCons _ _ ih₁ ih₂ | many1 _ _ ih₁ ih₂ => exact (ih₁ hp).append (ih₂ hp)
  | sepBy _ _ ih₁ ih₂ =>
    simp only [Phrase.covers, Bool.and_eq_true] at hp
    exact (ih₁ hp.1).append (ih₂ (by simp [Phrase.covers, Phrase.allCover, hp.1, hp.2]))
  | @node kind q i j parts hbody _ =>
    simp only [Phrase.covers, Bool.or_eq_true, Bool.and_eq_true, decide_eq_true_eq] at hp
    rcases hp with (hkind | ⟨rfl, hone⟩) | ⟨rfl, hdecoration⟩
    · obtain ⟨form, body, hstmts, hform⟩ := Tree.toStmts_of_isStatement hkind _ parts
      exact .node hordered hstmts hform
    · obtain ⟨t, x, k, rfl, -⟩ := hbody.leavesOne hone
      exact .node hordered rfl nofun
    · intro x k hix hxj hk hsolid
      obtain ⟨st, m, first, hstmts, hspan, -, hsolid', -, hintro, -, hfirst⟩ :=
        hbody.decorated hordered hdecoration (spanBetween tokens i j)
      obtain ⟨a, ha⟩ := hsolid'.exists_first
      have hend := endLine_le_spanBetween hordered ha hxj hk hsolid
      rw [← hspan] at hend
      rw [Tree.allStmts, Tree.allStmts, List.append_nil, hstmts]
      cases hloose : k.isLoose with
      | true => exact Or.inl hloose
      | false =>
        have hline := hfirst x k hix hk hloose
        exact Or.inr ⟨st, List.mem_singleton_self st, first, by simp [hintro], hline, hend⟩
  | commit | otherwise | forced | chainHead | chainStep => cases hp

end

/-! ## The extent of a program -/

/-- The tokens of a program end in the end marker, each solid one is loose or on the lines of a
statement, and the statements at any depth are introduced before they end. -/
theorem parse_covers {source : List Char} {stmts : List Stmt} (h : parse source = .ok stmts) :
    (∃ k ∈ (SourceText.ofSource source).tokens.tokens, k.kind = .endMarker) ∧
      (∀ k ∈ (SourceText.ofSource source).tokens.tokens, k.isLayout = false → k.CoveredBy stmts) ∧
      ∀ st ∈ Stmt.preorderAll stmts, st.IsPlaced := by
  have hordered := (SourceText.ofSource source).tokens_ordered
  obtain ⟨j, trees, hderives, rfl⟩ := exists_derives_of_parse h
  refine ⟨?_, ?_, hderives.allPlaced hordered rfl⟩
  · cases hderives with
    | rule hbody =>
      cases hbody with
      | seqCons _ hrest =>
        cases hrest with
        | seqCons hmarker _ =>
          cases hmarker with
          | terminal hread haccepts =>
            exact ⟨_, Array.mem_of_getElem? hread, of_decide_eq_true haccepts⟩
  · intro k hk hsolid
    obtain ⟨x, hx⟩ := Array.mem_iff_getElem?.mp hk
    have hsize := (Array.getElem?_eq_some_iff.mp hx).1
    have hcovered := hderives.allCovered hordered rfl
    exact hcovered x k (Nat.zero_le x) (hderives.file_end ▸ hsize) hx hsolid

end NodeLint.Source
