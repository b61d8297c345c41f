import NodeLint.Proofs.ClassKeyword

/-!
# What phrases take and leave

Most phrases of the grammar take a token that is no mere layout, and those of expressions leave one
tree. Such a tree begins with the first token, or behind parentheses: a parenthesised expression is
what is inside. Which phrases are of this kind is computed from the grammar and checked rule by
rule; that they do what they are taken for is shown for all derivations.
-/

namespace NodeLint.Source

/-! ## Phrases that take a token -/

/-- Whether a terminal is about the layout of the text. -/
def Terminal.isLayout : Terminal → Bool
  | .newline | .indent | .dedent | .endMarker => true
  | _ => false

/-- Any other terminal takes a solid token. -/
theorem Terminal.isLayout_of_accepts (t : Terminal) {k : Token} (h : t.isLayout = false)
    (haccepts : t.accepts k = true) : k.isLayout = false := by
  cases t <;> simp [Terminal.isLayout, Terminal.accepts] at h haccepts <;>
    simp [Token.isLayout, haccepts]

namespace Phrase

mutual

/-- Whether a phrase takes a solid token, if it matches. -/
def takes : Phrase → Bool
  | .terminal t | .keep t => !t.isLayout
  | .rule r => r ≠ .file
  | .seq ps => anyTakes ps
  | .alt ps => allTake ps
  | .commit head body otherwise => (takes head || takes body) && takes otherwise
  | .many1 p | .sepBy p _ | .node _ p | .chain p _ | .checked p _ | .plain p => takes p
  | .optional _ | .many _ | .ahead _ | .notAhead _ => false
  | .forced _ | .refuse _ _ | .hint _ => true

/-- Whether one of several phrases does. -/
def anyTakes : List Phrase → Bool
  | [] => false
  | p :: ps => takes p || anyTakes ps

/-- Whether all of several phrases do. -/
def allTake : List Phrase → Bool
  | [] => true
  | p :: ps => takes p && allTake ps

end

/-- Every rule but that of a file takes a token. -/
theorem takes_body {r : Rule} (h : r ≠ .file) : takes r.body = true := by
  revert h
  cases r <;> decide +kernel

/-- Every one of several phrases that take a token takes one. -/
theorem takes_of_mem {p : Phrase} {ps : List Phrase} (h : allTake ps = true) (hp : p ∈ ps) :
    takes p = true :=
  of_mem_all (fun _ _ => rfl) h hp

end Phrase

section
variable {check : Field → Option Fault} {tokens : Array Token} {i m j : Nat} {k : Token}

/-- A stretch of tokens with a solid one. -/
def HasSolid (tokens : Array Token) (i j : Nat) : Prop :=
  ∃ x k, i ≤ x ∧ x < j ∧ tokens[x]? = some k ∧ k.isLayout = false

/-- A longer stretch has it too. -/
theorem HasSolid.mono {i' j' : Nat} (h : HasSolid tokens i j) (hi : i' ≤ i) (hj : j ≤ j') :
    HasSolid tokens i' j' := by
  obtain ⟨x, k, hix, hxj, hk, hsolid⟩ := h
  exact ⟨x, k, by omega, by omega, hk, hsolid⟩

/-- A stretch with a solid token begins with a token. -/
theorem HasSolid.exists_first (h : HasSolid tokens i j) : ∃ a, tokens[i]? = some a := by
  obtain ⟨x, k, hix, -, hk, -⟩ := h
  have hsize := (Array.getElem?_eq_some_iff.mp hk).1
  exact ⟨_, Array.getElem?_eq_getElem (by omega)⟩

/-- A token that a terminal accepts is solid, if the terminal is not about the layout. -/
theorem HasSolid.one {t : Terminal} (hread : tokens[i]? = some k) (haccepts : t.accepts k = true)
    (ht : t.isLayout = false) : HasSolid tokens i (i + 1) :=
  ⟨i, k, Nat.le_refl i, Nat.lt_succ_self i, hread, t.isLayout_of_accepts ht haccepts⟩

/-- A phrase that takes a solid token does. -/
theorem Derives.hasSolid {p : Phrase} {trees : List Tree}
    (h : Derives language check tokens p i j trees)
    (hp : Phrase.takes p = true) : HasSolid tokens i j := by
  induction h with
  | terminal hread haccepts | keep hread haccepts =>
    exact .one hread haccepts (by simpa [Phrase.takes] using hp)
  | forced hread haccepts => exact .one hread haccepts rfl
  | rule _ ih => exact ih (Phrase.takes_body (by simpa [Phrase.takes] using hp))
  | alt hmem _ ih => exact ih (Phrase.takes_of_mem hp hmem)
  | seqNil | optionalNone | optionalSome | manyNil | manyCons | ahead | notAhead => cases hp
  | node _ ih | chainHead _ ih | checked _ _ ih | plain _ ih => exact ih hp
  | seqCons hfirst hrest ih₁ ih₂ =>
    simp only [Phrase.takes, Phrase.anyTakes, Bool.or_eq_true] at hp
    rcases hp with hp | hp
    · exact (ih₁ hp).mono (Nat.le_refl _) hrest.le
    · exact (ih₂ hp).mono hfirst.le (Nat.le_refl _)
  | commit hhead hbody ih₁ ih₂ =>
    simp only [Phrase.takes, Bool.and_eq_true, Bool.or_eq_true] at hp
    rcases hp.1 with hp | hp
    · exact (ih₁ hp).mono (Nat.le_refl _) hbody.le
    · exact (ih₂ hp).mono hhead.le (Nat.le_refl _)
  | otherwise _ ih =>
    simp only [Phrase.takes, Bool.and_eq_true] at hp
    exact ih hp.2
  | many1 hfirst hrest ih₁ _ | sepBy hfirst hrest ih₁ _ =>
    exact (ih₁ hp).mono (Nat.le_refl _) hrest.le
  | chainStep hfirst _ hstep ih₁ _ => exact (ih₁ hp).mono (Nat.le_refl _) hstep.le

end

/-! ## Phrases that leave one expression -/

/-- Kinds of trees that stand for no statement. -/
def Kind.isExpression : Kind → Bool
  | .function | .classDef | .decorated | .importFrom | .expressionStatement | .simple | .compound
  | .arm => false
  | _ => true

/-- Such a tree stands for none. -/
theorem Tree.toStmts_of_isExpression {kind : Kind} (h : kind.isExpression = true) (s : Span)
    (parts : List Tree) : toStmts (.node kind s parts) = [] := by
  cases kind with
  | function | classDef | decorated | importFrom | expressionStatement | simple | compound | arm =>
    cases h
  | _ => rfl

/-- Rules of expressions. -/
def Rule.isExpression : Rule → Bool
  | .expression | .yieldExpression | .starExpressions | .starExpression | .assignmentExpression
  | .namedExpression | .disjunction | .conjunction | .inversion | .comparison | .bitwiseOr
  | .bitwiseXor | .bitwiseAnd | .shift | .sum | .term | .factor | .power | .awaitPrimary | .primary
  | .atom | .group | .lambda | .strings | .list | .tuple | .dict | .set | .listComprehension
  | .setComprehension | .dictComprehension | .generator => true
  | _ => false

namespace Phrase

mutual

/-- Whether a phrase never matches: it is a hint, or is refused. -/
def neverMatches : Phrase → Bool
  | .refuse _ _ | .hint _ => true
  | .seq ps => anyNeverMatches ps
  | .alt ps => allNeverMatch ps
  | _ => false

/-- Whether one of several phrases never matches. -/
def anyNeverMatches : List Phrase → Bool
  | [] => false
  | p :: ps => neverMatches p || anyNeverMatches ps

/-- Whether all of several phrases never match. -/
def allNeverMatch : List Phrase → Bool
  | [] => true
  | p :: ps => neverMatches p && allNeverMatch ps

end

/-- Whether a phrase leaves no tree. -/
def isSilent : Phrase → Bool
  | .terminal _ | .forced _ | .ahead _ | .notAhead _ => true
  | _ => false

/-- Whether a phrase takes nothing but an opening parenthesis. -/
def isOpening : Phrase → Bool
  | .terminal (.op text) => text = "("
  | .ahead _ | .notAhead _ => true
  | _ => false

/-- Whether the labels of a chain are those of expressions. -/
def stepsAreExpressions : List (Kind × Phrase) → Bool
  | [] => true
  | (kind, _) :: steps => kind.isExpression && stepsAreExpressions steps

mutual

/-- Whether a phrase leaves one expression, which begins at its first token or behind opening
parentheses. -/
def leavesOne : Phrase → Bool
  | .keep _ => true
  | .rule r => r.isExpression
  | .seq ps => anyNeverMatches ps || seqLeavesOne ps
  | .alt ps => allLeaveOne ps
  | .node kind p => kind.isExpression && takes p
  | .chain head steps => leavesOne head && stepsAreExpressions steps
  | .checked p _ | .plain p => leavesOne p
  | .refuse _ _ | .hint _ => true
  | _ => false

/-- The same for phrases one after the other: one leaves an expression, and no other a tree. -/
def seqLeavesOne : List Phrase → Bool
  | [] => false
  | p :: ps => (isOpening p && seqLeavesOne ps) || (leavesOne p && ps.all isSilent)

/-- Whether all of several phrases leave one expression. -/
def allLeaveOne : List Phrase → Bool
  | [] => true
  | p :: ps => leavesOne p && allLeaveOne ps

end

/-- The rules of expressions leave one. -/
theorem leavesOne_body {r : Rule} (h : r.isExpression = true) : leavesOne r.body = true := by
  revert h
  cases r <;> decide +kernel

/-- Every one of several phrases that leave one expression leaves one. -/
theorem leavesOne_of_mem {p : Phrase} {ps : List Phrase} (h : allLeaveOne ps = true) (hp : p ∈ ps) :
    leavesOne p = true :=
  of_mem_all (fun _ _ => rfl) h hp

/-- Every one of several phrases that never match never matches. -/
theorem neverMatches_of_mem {p : Phrase} {ps : List Phrase} (h : allNeverMatch ps = true)
    (hp : p ∈ ps) : neverMatches p = true :=
  of_mem_all (fun _ _ => rfl) h hp

/-- The labels of a chain of expressions are those of expressions. -/
theorem isExpression_of_mem {kind : Kind} {p : Phrase} {steps : List (Kind × Phrase)}
    (h : stepsAreExpressions steps = true) (hp : (kind, p) ∈ steps) : kind.isExpression = true :=
  of_mem_all (f := fun step => step.1.isExpression) (fun _ _ => rfl) h hp

end Phrase

section
variable {check : Field → Option Fault} {tokens : Array Token} {i m j : Nat} {k : Token}
  {p : Phrase} {trees : List Tree}

/-- What matches is not a phrase that never does. -/
theorem Derives.neverMatches_eq_false (h : Derives language check tokens p i j trees) :
    Phrase.neverMatches p = false := by
  induction h with
  | seqCons _ _ ih₁ ih₂ => simpa [Phrase.neverMatches, Phrase.anyNeverMatches, ih₁] using ih₂
  | alt hmem _ ih =>
    rw [Phrase.neverMatches, Bool.eq_false_iff]
    intro hall
    rw [Phrase.neverMatches_of_mem hall hmem] at ih
    cases ih
  | _ => rfl

/-- A silent phrase leaves no tree. -/
theorem Derives.eq_nil_of_isSilent (h : Derives language check tokens p i j trees)
    (hp : Phrase.isSilent p = true) : trees = [] := by
  cases h with
  | terminal | forced | ahead | notAhead => rfl
  | _ => cases hp

/-- Silent phrases one after the other leave no tree. -/
theorem Derives.eq_nil_of_all_isSilent {ps : List Phrase}
    (h : Derives language check tokens (.seq ps) i j trees) (hps : ps.all Phrase.isSilent = true) :
    trees = [] := by
  induction ps generalizing i trees with
  | nil =>
    cases h
    rfl
  | cons p ps ih =>
    simp only [List.all_cons, Bool.and_eq_true] at hps
    cases h with
    | seqCons hfirst hrest => rw [hfirst.eq_nil_of_isSilent hps.1, ih hrest hps.2, List.nil_append]

/-- Whether a token is an opening parenthesis. -/
def Token.IsParenthesis (k : Token) : Prop := k.kind = .op ∧ k.text = "("

/-- The trees of a stretch are one expression, which begins where a token of the stretch does, and
only opening parentheses stand before this token. -/
def LeavesOne (tokens : Array Token) (i j : Nat) (trees : List Tree) : Prop :=
  ∃ t x k, trees = [t] ∧ t.toStmts = [] ∧ i ≤ x ∧ x < j ∧ tokens[x]? = some k ∧
    t.span.line = k.span.line ∧ ∀ y, i ≤ y → y < x → ∃ a, tokens[y]? = some a ∧ a.IsParenthesis

/-- The stretch of such an expression begins with a token. -/
theorem LeavesOne.exists_first (h : LeavesOne tokens i j trees) :
    i < j ∧ ∃ a, tokens[i]? = some a := by
  obtain ⟨t, x, k, -, -, hix, hxj, hk, -⟩ := h
  have hsize := (Array.getElem?_eq_some_iff.mp hk).1
  exact ⟨by omega, _, Array.getElem?_eq_getElem (by omega)⟩

/-- The label of an expression begins at the first token. -/
theorem LeavesOne.node {kind : Kind} (hkind : kind.isExpression = true) (hij : i < j) {a : Token}
    (ha : tokens[i]? = some a) (parts : List Tree) :
    LeavesOne tokens i j [.node kind (spanBetween tokens i j) parts] := by
  have hline : (spanBetween tokens i j).line = a.span.line :=
    congrArg Prod.fst (spanBetween_start ha j)
  exact ⟨_, i, a, rfl, Tree.toStmts_of_isExpression hkind _ _, Nat.le_refl i, hij, ha, hline,
    by omega⟩

/-- A phrase that takes nothing but an opening parenthesis leaves no tree. -/
theorem Derives.opening (h : Derives language check tokens p i m trees)
    (hp : Phrase.isOpening p = true) :
    trees = [] ∧ (m = i ∨ m = i + 1 ∧ ∃ a, tokens[i]? = some a ∧ a.IsParenthesis) := by
  cases h with
  | ahead | notAhead => exact ⟨rfl, Or.inl rfl⟩
  | @terminal t k _ hread haccepts =>
    cases t with
    | op text =>
      simp only [Phrase.isOpening, decide_eq_true_eq] at hp
      simp only [Terminal.accepts, hp, Bool.and_eq_true, decide_eq_true_eq] at haccepts
      exact ⟨rfl, Or.inr ⟨rfl, k, hread, haccepts⟩⟩
    | _ => cases hp
  | _ => cases hp

/-- A phrase that leaves one expression does. -/
theorem Derives.leavesOne (h : Derives language check tokens p i j trees)
    (hp : Phrase.leavesOne p = true) : LeavesOne tokens i j trees := by
  induction h with
  | @keep t k i hread haccepts =>
    exact ⟨_, i, k, rfl, rfl, Nat.le_refl i, Nat.lt_succ_self i, hread, rfl, by omega⟩
  | rule _ ih => exact ih (Phrase.leavesOne_body hp)
  | alt hmem _ ih => exact ih (Phrase.leavesOne_of_mem hp hmem)
  | checked _ _ ih | plain _ ih => exact ih hp
  | node hbody _ =>
    simp only [Phrase.leavesOne, Bool.and_eq_true] at hp
    have hsolid := hbody.hasSolid hp.2
    obtain ⟨a, ha⟩ := hsolid.exists_first
    obtain ⟨x, k, hix, hxj, -⟩ := hsolid
    exact .node hp.1 (by omega) ha _
  | chainHead _ ih =>
    simp only [Phrase.leavesOne, Bool.and_eq_true] at hp
    exact ih hp.1
  | chainStep hfirst hmem hstep ih _ =>
    obtain ⟨him, a, ha⟩ := (ih hp).exists_first
    simp only [Phrase.leavesOne, Bool.and_eq_true] at hp
    exact .node (Phrase.isExpression_of_mem hp.2 hmem) (Nat.lt_of_lt_of_le him hstep.le) ha _
  | @seqCons q ps i m j first rest hfirst hrest ih₁ ih₂ =>
    have hmatches := (Derives.seqCons hfirst hrest).neverMatches_eq_false
    rw [Phrase.neverMatches] at hmatches
    rw [Phrase.leavesOne, hmatches, Bool.false_or] at hp
    simp only [Phrase.seqLeavesOne, Bool.or_eq_true, Bool.and_eq_true] at hp
    rcases hp with ⟨hopening, hps⟩ | ⟨hq, hsilent⟩
    · obtain ⟨rfl, hm⟩ := hfirst.opening hopening
      obtain ⟨t, x, k, rfl, htree, hmx, hxj, hk, hline, hbefore⟩ :=
        ih₂ (by rw [Phrase.leavesOne, hps, Bool.or_true])
      refine ⟨t, x, k, rfl, htree, by omega, hxj, hk, hline, ?_⟩
      intro y hiy hyx
      rcases hm with rfl | ⟨rfl, ha⟩
      · exact hbefore y hiy hyx
      · rcases Nat.lt_or_eq_of_le hiy with hlt | rfl
        · exact hbefore y hlt hyx
        · exact ha
    · obtain ⟨t, x, k, rfl, htree, hix, hxm, hk, hline, hbefore⟩ := ih₁ hq
      rw [hrest.eq_nil_of_all_isSilent hsilent, List.append_nil]
      exact ⟨t, x, k, rfl, htree, hix, Nat.lt_of_lt_of_le hxm hrest.le, hk, hline, hbefore⟩
  | terminal | forced | seqNil | optionalNone | optionalSome | manyNil | manyCons | ahead | notAhead
  | many1 | sepBy | commit | otherwise => cases hp

end

end NodeLint.Source
