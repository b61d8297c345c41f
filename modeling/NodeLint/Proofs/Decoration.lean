import NodeLint.Proofs.LogicalLine
import NodeLint.Proofs.StatementRange

/-!
# Decorated definitions

A decorated definition takes logical lines of its own: it begins with the sign of its first
decorator, each decorator ends a line, and so does the definition. No other statement is therefore
introduced on its lines but those in it, and these not before its keyword. It is introduced itself
on the line of its keyword and on that of its first decorator, which begins with the expression
behind the sign. Where the sign is on an earlier line, nothing is introduced on the line of the
sign.

This is shown for all derivations at once, by induction, for the statements on any stretch of
tokens: each is introduced on a line of the stretch, and a decorated definition is alone on its
lines.
-/

namespace NodeLint.Source

open StatementRanges

/-! ## The signs of decorators -/

section
variable {tokens : Array Token} {i j m n x y l l' : Nat}

/-- A line on which a solid token of a stretch begins. -/
def Stands (tokens : Array Token) (i j l : Nat) : Prop :=
  ∃ x k, i ≤ x ∧ x < j ∧ tokens[x]? = some k ∧ k.isLayout = false ∧ k.span.line = l

/-- It begins in every longer stretch. -/
theorem Stands.mono {i' j' : Nat} (h : Stands tokens i j l) (hi : i' ≤ i) (hj : j ≤ j') :
    Stands tokens i' j' l := by
  obtain ⟨x, k, hix, hxj, hk⟩ := h
  exact ⟨x, k, by omega, by omega, hk⟩

/-- The lines before the beginning of a logical line are earlier than those behind it. -/
theorem Stands.lt (hordered : Ordered tokens.toList) (hapart : Apart tokens.toList)
    {i' j' : Nat} (h : Stands tokens i j l) (hn : BeginsLine tokens n) (hjn : j ≤ n) (hni : n ≤ i')
    (h' : Stands tokens i' j' l') : l < l' := by
  obtain ⟨x, a, hix, hxj, ha, hasolid, rfl⟩ := h
  obtain ⟨y, b, hiy, hyj, hb, hbsolid, rfl⟩ := h'
  have hlt := hn.endLine_lt hapart (by omega) (by omega) ha hasolid hb hbsolid
  have hle := hordered.line_le a (Array.mem_toList_iff.mpr (Array.mem_of_getElem? ha))
  omega

/-- The sign before a decorator that begins on a line: an at sign at the beginning of a logical
line, further on in which a token begins on that line. -/
structure IsSign (tokens : Array Token) (line x : Nat) : Prop where
  begins : BeginsLine tokens x
  sign : ∃ k, tokens[x]? = some k ∧ k.kind = .op ∧ k.text = "@"
  shared : ∃ y, AllSolid tokens x y ∧ Stands tokens (x + 1) y line

/-- The sign is on no later line. -/
theorem IsSign.line_le (hordered : Ordered tokens.toList) (h : IsSign tokens l x) {k : Token}
    (hk : tokens[x]? = some k) : k.span.line ≤ l := by
  obtain ⟨y, -, z, a, hxz, -, ha, -, rfl⟩ := h.shared
  exact (hordered.le (by omega : x ≤ z) hk ha).1

/-- No sign for the line is before another. -/
theorem IsSign.not_lt (hordered : Ordered tokens.toList) (hapart : Apart tokens.toList)
    (hx : IsSign tokens l x) (hy : IsSign tokens l y) : ¬ x < y := by
  intro hlt
  obtain ⟨v, hsolid, hv⟩ := hx.shared
  obtain ⟨w, -, hw⟩ := hy.shared
  by_cases hvy : v ≤ y
  · -- two logical lines would share a line
    exact Nat.lt_irrefl l (hv.lt hordered hapart hy.begins hvy (Nat.le_succ y) hw)
  · -- the second sign would be inside the logical line of the first
    obtain ⟨n, rfl⟩ : ∃ n, y = n + 1 := ⟨y - 1, by omega⟩
    obtain ⟨k, hk, hlayout⟩ := hy.begins n rfl
    obtain ⟨k', hk', hsolid⟩ := hsolid n (by omega) (by omega)
    rw [Option.some.inj (hk'.symm.trans hk), hlayout] at hsolid
    cases hsolid

/-- There is one sign for a line at most. -/
theorem IsSign.unique (hordered : Ordered tokens.toList) (hapart : Apart tokens.toList)
    (hx : IsSign tokens l x) (hy : IsSign tokens l y) : x = y := by
  have hxy := hx.not_lt hordered hapart hy
  have hyx := hy.not_lt hordered hapart hx
  omega

end

/-! ## Decorators -/

section
variable {check : Field → Option Fault} {tokens : Array Token} {i m j : Nat} {p : Phrase}
  {trees : List Tree}

/-- Expressions stay inside a line. -/
theorem Rule.endsLine_of_isExpression {r : Rule} (h : r.isExpression = true) :
    r.endsLine = false := by
  revert h
  cases r <;> decide

/-- A decorator is one expression behind a sign, and a logical line of its own. -/
theorem Derives.signed (h : Derives language check tokens p i j trees)
    (hp : Phrase.isDecorator p = true) (hi : BeginsLine tokens i) :
    ∃ t, trees = [t] ∧ t.toStmts = [] ∧ IsSign tokens t.span.line i ∧
      Stands tokens i j t.span.line ∧ BeginsLine tokens j := by
  unfold Phrase.isDecorator at hp
  split at hp
  · rename_i sign r
    simp only [Bool.and_eq_true, decide_eq_true_eq] at hp
    obtain ⟨rfl, hr⟩ := hp
    cases h with
    | seqCons hsign hrest =>
      cases hsign with
      | @terminal _ a _ hread haccepts =>
        cases hrest with
        | @seqCons _ _ _ m _ _ _ hexpr hrest =>
          cases hrest with
          | seqCons hline hnil =>
            cases hnil
            cases hline with
            | terminal hreadEnd hacceptsEnd =>
              obtain ⟨t, x, k, rfl, htree, hix, hxm, hk, hline, -⟩ := hexpr.leavesOne hr
              have hstay := Rule.endsLine_of_isExpression hr
              have hinside : AllSolid tokens (i + 1) m :=
                hexpr.allSolid (by simp [Phrase.staysInLine, hstay])
              have hall : AllSolid tokens i m := (AllSolid.one hread haccepts rfl).append hinside
              obtain ⟨k', hk', hsolid⟩ := hinside x hix hxm
              obtain rfl := Option.some.inj (hk.symm.trans hk')
              have hstands : Stands tokens (i + 1) m t.span.line :=
                ⟨x, k, hix, hxm, hk, hsolid, hline.symm⟩
              simp only [Terminal.accepts, Bool.and_eq_true, decide_eq_true_eq] at haccepts
              exact ⟨t, rfl, htree, ⟨hi, ⟨a, hread, haccepts⟩, m, hall, hstands⟩,
                hstands.mono (Nat.le_succ i) (Nat.le_succ m), .accepts hreadEnd hacceptsEnd rfl⟩
  · cases hp

/-- Further decorators are expressions on later lines. -/
theorem Derives.signed_many (h : Derives language check tokens (.many p) i j trees)
    (hp : Phrase.isDecorator p = true) (hi : BeginsLine tokens i) :
    BeginsLine tokens j ∧ ∀ t ∈ trees, t.toStmts = [] ∧ Stands tokens i j t.span.line := by
  generalize hq : Peg.many p = q at h
  induction h with
  | manyNil => exact ⟨hi, nofun⟩
  | manyCons hfirst hrest _ ih =>
    obtain rfl := Peg.many.inj hq
    obtain ⟨t, rfl, htree, -, hstands, hm⟩ := hfirst.signed hp hi
    obtain ⟨hj, hmore⟩ := ih hm rfl
    refine ⟨hj, ?_⟩
    intro t' ht'
    rw [List.singleton_append, List.mem_cons] at ht'
    rcases ht' with rfl | ht'
    · exact ⟨htree, hstands.mono (Nat.le_refl _) hrest.le⟩
    · exact ⟨(hmore t' ht').1, (hmore t' ht').2.mono hfirst.le (Nat.le_refl _)⟩
  | _ => cases hq

end

/-! ## How statements are laid out -/

/-- A decorated definition on a stretch of logical lines of its own. Its first decorator, behind the
sign at the beginning, is not behind its keyword, and nothing in it is introduced before the
keyword. -/
structure Decorates (tokens : Array Token) (b c : Nat) (d : Stmt) (e : Expr) : Prop where
  head : d.decorators.head? = some e
  introduced : introducing d = [d.line, e.span.line]
  sign : IsSign tokens e.span.line b
  ends : BeginsLine tokens c
  stands : ∀ l ∈ introducing d, Stands tokens b c l
  line_le : e.span.line ≤ d.line
  nested : ∀ inner ∈ Stmt.preorderAll d.body, ∀ l ∈ introducing inner, d.line ≤ l

section
variable {tokens : Array Token} {b c : Nat} {d : Stmt} {e : Expr} {k : Token}

/-- The sign is on a line of the stretch. -/
theorem Decorates.stands_sign (h : Decorates tokens b c d e) (hk : tokens[b]? = some k) :
    Stands tokens b c k.span.line := by
  obtain ⟨k', hk', hop, -⟩ := h.sign.sign
  rw [Option.some.inj (hk'.symm.trans hk)] at hop
  obtain ⟨x, -, hbx, hxc, -⟩ := h.stands d.line (by simp [h.introduced])
  exact ⟨b, k, Nat.le_refl b, by omega, hk, by simp [Token.isLayout, hop], rfl⟩

/-- Where the sign is on an earlier line than the decorator, nothing is introduced on its line. -/
theorem Decorates.free (hordered : Ordered tokens.toList) (h : Decorates tokens b c d e)
    (hk : tokens[b]? = some k) (hne : k.span.line ≠ e.span.line) {stmts : List Stmt}
    (hsole : Sole k.span.line d stmts) : Free k.span.line stmts := by
  have hsign := h.sign.line_le hordered hk
  have hkeyword := h.line_le
  intro s hs hl
  rcases hsole.eq_or_mem hs hl with rfl | hinner
  · rw [h.introduced, List.mem_cons, List.mem_singleton] at hl
    omega
  · have hle := h.nested s hinner _ hl
    omega

end

/-- Statements on a stretch of tokens. They are introduced on lines on which tokens of the stretch
begin, and what is in a statement is not introduced before it. A decorated definition is alone on
all lines of its stretch. -/
structure Laid (tokens : Array Token) (i j : Nat) (stmts : List Stmt) : Prop where
  introduced : ∀ s ∈ Stmt.preorderAll stmts, ∀ l ∈ introducing s, Stands tokens i j l
  nested : ∀ s ∈ stmts, s.isStatement = true →
    ∀ inner ∈ Stmt.preorderAll s.body, ∀ l ∈ introducing inner, s.line ≤ l
  decorated : ∀ d ∈ Stmt.preorderAll stmts, d.decorators ≠ [] →
    ∃ b c e, i ≤ b ∧ c ≤ j ∧ Decorates tokens b c d e ∧ ∀ l, Stands tokens b c l → Sole l d stmts

namespace Laid

variable {tokens : Array Token} {i m j : Nat} {stmts a b : List Stmt}

/-- No statements. -/
theorem nil : Laid tokens i j [] := ⟨nofun, nofun, nofun⟩

/-- Statements on adjacent stretches. -/
theorem append (hordered : Ordered tokens.toList) (hapart : Apart tokens.toList) (him : i ≤ m)
    (hmj : m ≤ j) (ha : Laid tokens i m a) (hb : Laid tokens m j b) : Laid tokens i j (a ++ b) := by
  refine ⟨?_, ?_, ?_⟩
  · intro s hs l hl
    rw [Stmt.preorderAll_append, List.mem_append] at hs
    rcases hs with hs | hs
    · exact (ha.introduced s hs l hl).mono (Nat.le_refl i) hmj
    · exact (hb.introduced s hs l hl).mono him (Nat.le_refl j)
  · intro s hs
    exact (List.mem_append.mp hs).elim (ha.nested s) (hb.nested s)
  · intro d hd hdecorators
    rw [Stmt.preorderAll_append, List.mem_append] at hd
    rcases hd with hd | hd
    · obtain ⟨x, y, e, hix, hym, hdecorates, hsole⟩ := ha.decorated d hd hdecorators
      refine ⟨x, y, e, hix, Nat.le_trans hym hmj, hdecorates, ?_⟩
      intro l hl
      apply (hsole l hl).append_right
      intro s hs hintro
      exact Nat.lt_irrefl l (hl.lt hordered hapart hdecorates.ends (Nat.le_refl y) hym
        (hb.introduced s hs l hintro))
    · obtain ⟨x, y, e, hmx, hyj, hdecorates, hsole⟩ := hb.decorated d hd hdecorators
      refine ⟨x, y, e, Nat.le_trans him hmx, hyj, hdecorates, ?_⟩
      intro l hl
      apply Sole.append_left _ (hsole l hl)
      intro s hs hintro
      exact Nat.lt_irrefl l ((ha.introduced s hs l hintro).lt hordered hapart
        hdecorates.sign.begins hmx (Nat.le_refl x) hl)

variable {form : Form} {s : Span} {body : List Stmt}

/-- A statement and what it holds, or what it holds alone. -/
theorem mem_preorderAll_singleton {st : Stmt} :
    st ∈ Stmt.preorderAll [.mk form s body] ↔
      st = .mk form s body ∨ st ∈ Stmt.preorderAll body := by
  simp [Stmt.preorderAll, Stmt.preorder]

/-- An arm around statements is not introduced itself. -/
theorem arm (h : Laid tokens i j body) : Laid tokens i j [.mk .arm s body] := by
  have hnone : introducing (.mk .arm s body) = [] := rfl
  refine ⟨?_, ?_, ?_⟩
  · intro st hst l hl
    rcases mem_preorderAll_singleton.mp hst with rfl | hst
    · rw [hnone] at hl
      cases hl
    · exact h.introduced st hst l hl
  · intro st hst hstatement
    rw [List.mem_singleton.mp hst] at hstatement
    cases hstatement
  · intro d hd hdecorators
    rcases mem_preorderAll_singleton.mp hd with rfl | hd
    · exact absurd rfl hdecorators
    · obtain ⟨x, y, e, hix, hyj, hdecorates, hsole⟩ := h.decorated d hd hdecorators
      refine ⟨x, y, e, hix, hyj, hdecorates, ?_⟩
      intro l hl
      exact .inside (by simp [hnone]) (hsole l hl) free_nil

/-- A statement without decorators, which begins with a solid token, around statements; if there are
any, then the token is not a sign. -/
theorem statement (hordered : Ordered tokens.toList) (hapart : Apart tokens.toList)
    (hdecorators : (Stmt.mk form s body).decorators = []) {k : Token} (hij : i < j)
    (hk : tokens[i]? = some k) (hsolid : k.isLayout = false) (hline : s.line = k.span.line)
    (hopen : k.kind = .op → body = []) (h : Laid tokens i j body) :
    Laid tokens i j [.mk form s body] := by
  have hself : (Stmt.mk form s body).line = k.span.line := hline
  have hintro : ∀ l ∈ introducing (.mk form s body), l = k.span.line := by
    intro l hl
    rw [introducing, hdecorators] at hl
    split at hl
    · rw [← hself]
      simpa [firstLine?] using hl
    · cases hl
  refine ⟨?_, ?_, ?_⟩
  · intro st hst l hl
    rcases mem_preorderAll_singleton.mp hst with rfl | hst
    · exact ⟨i, k, Nat.le_refl i, hij, hk, hsolid, (hintro l hl).symm⟩
    · exact h.introduced st hst l hl
  · intro st hst _ inner hinner l hl
    rw [List.mem_singleton.mp hst] at hinner ⊢
    obtain ⟨x, a, hix, -, ha, -, rfl⟩ := h.introduced inner hinner l hl
    rw [hself]
    exact (hordered.le hix hk ha).1
  · intro d hd hdecorated
    rcases mem_preorderAll_singleton.mp hd with rfl | hd
    · exact absurd hdecorators hdecorated
    · obtain ⟨x, y, e, hix, hyj, hdecorates, hsole⟩ := h.decorated d hd hdecorated
      refine ⟨x, y, e, hix, hyj, hdecorates, ?_⟩
      intro l hl
      have hne : i ≠ x := by
        rintro rfl
        obtain ⟨k', hk', hop, -⟩ := hdecorates.sign.sign
        rw [Option.some.inj (hk'.symm.trans hk)] at hop
        rw [hopen hop] at hd
        cases hd
      apply Sole.inside _ (hsole l hl) free_nil
      intro first hfirst
      have hbefore : Stands tokens i x first :=
        ⟨i, k, Nat.le_refl i, by omega, hk, hsolid, (hintro first hfirst).symm⟩
      exact hbefore.lt hordered hapart hdecorates.sign.begins (Nat.le_refl x) (Nat.le_refl x) hl

/-- A definition on which decorators are put. -/
theorem decorate {plain : Form} {e : Expr} (h : Laid tokens i j [.mk plain s body])
    (hdecorators : (Stmt.mk plain s body).decorators = []) (harm : plain ≠ .arm)
    (hd : Decorates tokens i j (.mk form s body) e) : Laid tokens i j [.mk form s body] := by
  refine ⟨?_, ?_, ?_⟩
  · intro st hst l hl
    rcases mem_preorderAll_singleton.mp hst with rfl | hst
    · exact hd.stands l hl
    · exact h.introduced st (mem_preorderAll_singleton.mpr (Or.inr hst)) l hl
  · intro st hst _
    rw [List.mem_singleton.mp hst]
    exact hd.nested
  · intro st hst hdecorated
    rcases mem_preorderAll_singleton.mp hst with rfl | hst
    · exact ⟨i, j, e, Nat.le_refl i, Nat.le_refl j, hd, fun l _ => .here free_nil⟩
    · obtain ⟨x, y, e', hix, hyj, hdecorates, hsole⟩ :=
        h.decorated st (mem_preorderAll_singleton.mpr (Or.inr hst)) hdecorated
      refine ⟨x, y, e', hix, hyj, hdecorates, ?_⟩
      intro l hl
      cases hsole l hl with
      | here => exact absurd hdecorators hdecorated
      | behind _ hrest => cases hrest
      | inside hs hbody =>
        have hline : s.line < l := by
          apply hs s.line
          simp [introducing, Stmt.isStatement, Stmt.form, harm, Stmt.line, Stmt.span]
        have hle : e.span.line ≤ s.line := hd.line_le
        have hbody' : Sole l st (Stmt.mk form s body).body := hbody
        apply Sole.inside _ hbody' free_nil
        intro first hfirst
        rw [hd.introduced, List.mem_cons, List.mem_singleton] at hfirst
        rcases hfirst with rfl | rfl
        · exact hline
        · exact Nat.lt_of_le_of_lt hle hline

end Laid

namespace Tree

/-- A decorated definition differs from the definition in its decorators. -/
theorem decorate_definition {kind : Kind} (hkind : kind = .function ∨ kind = .classDef)
    {decorators : List Tree} (hnone : allStmts decorators = []) (s s' : Span) (inner : List Tree) :
    ∃ plain form, plain ≠ .arm ∧ form ≠ .arm ∧
      allStmts (decorators ++ [.node kind s' inner]) = [.mk plain s' (allStmts inner)] ∧
      (Stmt.mk plain s' (allStmts inner)).decorators = [] ∧
      toStmts (.node .decorated s (decorators ++ [.node kind s' inner])) =
        [.mk form s' (allStmts inner)] ∧
      (Stmt.mk form s' (allStmts inner)).decorators = decorators.map toExpr := by
  rw [toStmts, allStmts_append, hnone, List.dropLast_concat]
  rcases hkind with rfl | rfl
  · exact ⟨.function (definedName inner) [], .function (definedName inner) (decorators.map toExpr),
      by simp, by simp, rfl, rfl, rfl, rfl⟩
  · exact ⟨.classDef (definedName inner) (baseExprs inner) [],
      .classDef (definedName inner) (baseExprs inner) (decorators.map toExpr),
      by simp, by simp, rfl, rfl, rfl, rfl⟩

/-- Trees that stand for no statement stand for none together. -/
theorem allStmts_eq_nil {trees : List Tree} (h : ∀ t ∈ trees, t.toStmts = []) :
    allStmts trees = [] := by
  induction trees with
  | nil => rfl
  | cons t trees ih =>
    rw [allStmts, h t List.mem_cons_self, List.nil_append]
    exact ih fun t' ht' => h t' (List.mem_cons_of_mem t ht')

/-- The first line of decorators is that of the first, if none is on an earlier line. -/
theorem firstLine?_cons {t : Tree} {more : List Tree}
    (h : ∀ t' ∈ more, t.span.line ≤ t'.span.line) :
    firstLine? ((t :: more).map toExpr) = some t.span.line := by
  have hlines : ((t :: more).map toExpr).map (fun e => e.span.line) =
      (t :: more).map fun t => t.span.line := by
    rw [List.map_map]
    apply List.map_congr_left
    intro t' _
    rw [Function.comp_apply, span_toExpr]
  rw [firstLine?, hlines, List.min?_eq_some_iff]
  refine ⟨List.mem_cons_self, ?_⟩
  intro l hl
  obtain ⟨t', ht', rfl⟩ := List.mem_map.mp hl
  rcases List.mem_cons.mp ht' with rfl | ht'
  · exact Nat.le_refl _
  · exact h t' ht'

end Tree

/-! ## Derivations of decorated definitions -/

namespace Phrase

mutual

/-- Whether a phrase begins with a word. -/
def opensWithWord : Phrase → Bool
  | .terminal (.word _) => true
  | .rule r => r = .functionDefRaw || r = .classDefRaw
  | .seq ps => seqOpensWithWord ps
  | .alt ps => allOpenWithWord ps
  | .commit head _ otherwise => opensWithWord head && opensWithWord otherwise
  | .node _ p => opensWithWord p
  | .refuse _ _ | .hint _ => true
  | _ => false

/-- The same for phrases one after the other. -/
def seqOpensWithWord : List Phrase → Bool
  | [] => false
  | p :: _ => opensWithWord p

/-- Whether all of several phrases begin with words. -/
def allOpenWithWord : List Phrase → Bool
  | [] => true
  | p :: ps => opensWithWord p && allOpenWithWord ps

end

/-- Definitions begin with a word. -/
theorem opensWithWord_body {r : Rule} (h : r = .functionDefRaw ∨ r = .classDefRaw) :
    opensWithWord r.body = true := by
  rcases h with rfl | rfl <;> decide +kernel

/-- Every one of several phrases that begin with words begins with one. -/
theorem opensWithWord_of_mem {p : Phrase} {ps : List Phrase} (h : allOpenWithWord ps = true)
    (hp : p ∈ ps) : opensWithWord p = true :=
  of_mem_all (fun _ _ => rfl) h hp

end Phrase

section
variable {check : Field → Option Fault} {tokens : Array Token} {i m j : Nat} {p : Phrase}
  {trees : List Tree}

/-- A phrase that begins with a word does. -/
theorem Derives.opensWithWord (h : Derives language check tokens p i j trees)
    (hp : Phrase.opensWithWord p = true) :
    i < j ∧ ∃ k, tokens[i]? = some k ∧ k.kind = .name := by
  induction h with
  | @terminal t k i hread haccepts =>
    cases t with
    | word text =>
      simp only [Terminal.accepts, Bool.and_eq_true, decide_eq_true_eq] at haccepts
      exact ⟨Nat.lt_succ_self i, k, hread, haccepts.1⟩
    | _ => cases hp
  | rule _ ih => exact ih (Phrase.opensWithWord_body (by simpa [Phrase.opensWithWord] using hp))
  | alt hmem _ ih => exact ih (Phrase.opensWithWord_of_mem hp hmem)
  | seqCons _ hrest ih _ =>
    obtain ⟨hlt, hword⟩ := ih hp
    exact ⟨Nat.lt_of_lt_of_le hlt hrest.le, hword⟩
  | commit _ hbody ih _ =>
    simp only [Phrase.opensWithWord, Bool.and_eq_true] at hp
    obtain ⟨hlt, hword⟩ := ih hp.1
    exact ⟨Nat.lt_of_lt_of_le hlt hbody.le, hword⟩
  | otherwise _ ih =>
    simp only [Phrase.opensWithWord, Bool.and_eq_true] at hp
    exact ih hp.2
  | node _ ih => exact ih hp
  | _ => cases hp

/-- Decorators one below the other: the first is behind a sign at the beginning and on the first
line of all, they stand for no statement, and a line begins behind them. -/
structure Signed (tokens : Array Token) (i m : Nat) (t : Tree) (more : List Tree) : Prop where
  sign : IsSign tokens t.span.line i
  stands : Stands tokens i m t.span.line
  ends : BeginsLine tokens m
  silent : Tree.allStmts (t :: more) = []
  first : firstLine? ((t :: more).map Tree.toExpr) = some t.span.line

/-- The decorators of a definition are of this kind. -/
theorem Derives.signed_many1 (hordered : Ordered tokens.toList) (hapart : Apart tokens.toList)
    (h : Derives language check tokens (.many1 p) i j trees) (hp : Phrase.isDecorator p = true)
    (hi : BeginsLine tokens i) : ∃ t more, trees = t :: more ∧ Signed tokens i j t more := by
  cases h with
  | @many1 _ _ n _ one more hone hmore =>
    obtain ⟨t, rfl, htree, hsign, hstands, hn⟩ := hone.signed hp hi
    obtain ⟨hj, hothers⟩ := hmore.signed_many hp hn
    refine ⟨t, more, rfl, hsign, hstands.mono (Nat.le_refl i) hmore.le, hj, ?_, ?_⟩
    · apply Tree.allStmts_eq_nil
      intro t' ht'
      rcases List.mem_cons.mp ht' with rfl | ht'
      · exact htree
      · exact (hothers t' ht').1
    · apply Tree.firstLine?_cons
      intro t' ht'
      have hlt := hstands.lt hordered hapart hn (Nat.le_refl n) (Nat.le_refl n) (hothers t' ht').2
      exact Nat.le_of_lt hlt

/-- A definition begins with its keyword, and a line begins behind it. -/
theorem Derives.keyword {r : Rule} (h : Derives language check tokens (.rule r) i j trees)
    (hr : r = .functionDefRaw ∨ r = .classDefRaw) :
    Stands tokens i j (spanBetween tokens i j).line ∧ BeginsLine tokens j := by
  obtain ⟨hij, k, hk, hword⟩ := h.opensWithWord (by simpa [Phrase.opensWithWord] using hr)
  have hline : (spanBetween tokens i j).line = k.span.line :=
    congrArg Prod.fst (spanBetween_start hk j)
  have hends : Phrase.endsLine false (.rule r) = true := by rcases hr with rfl | rfl <;> rfl
  exact ⟨⟨i, k, Nat.le_refl i, hij, hk, by simp [Token.isLayout, hword], hline.symm⟩,
    h.beginsLine (fun hfalse : false = true => nomatch hfalse) hends⟩

/-- Decorators and the definition behind them. -/
theorem Signed.decorates (hordered : Ordered tokens.toList) (hapart : Apart tokens.toList)
    {t : Tree} {more : List Tree} (h : Signed tokens i m t more) {form : Form} {s : Span}
    {body : List Stmt} (him : i ≤ m) (hmj : m ≤ j) (hkeyword : Stands tokens m j s.line)
    (hj : BeginsLine tokens j) (hform : form ≠ .arm)
    (hdecorators : (Stmt.mk form s body).decorators = (t :: more).map Tree.toExpr)
    (hnested : ∀ inner ∈ Stmt.preorderAll body, ∀ l ∈ introducing inner, s.line ≤ l) :
    Decorates tokens i j (.mk form s body) t.toExpr := by
  have hspan := Tree.span_toExpr t
  have hintroduced : introducing (.mk form s body) = [s.line, t.toExpr.span.line] := by
    rw [introducing, hdecorators, h.first, hspan]
    simp [Stmt.isStatement, Stmt.form, hform, Stmt.line, Stmt.span]
  have hbefore : t.span.line < s.line :=
    h.stands.lt hordered hapart h.ends (Nat.le_refl m) (Nat.le_refl m) hkeyword
  refine ⟨?_, hintroduced, ?_, hj, ?_, ?_, hnested⟩
  · rw [hdecorators]
    rfl
  · rw [hspan]
    exact h.sign
  · intro l hl
    rw [hintroduced, hspan, List.mem_cons, List.mem_singleton] at hl
    rcases hl with rfl | rfl
    · exact hkeyword.mono him (Nat.le_refl j)
    · exact h.stands.mono (Nat.le_refl i) hmj
  · rw [hspan]
    exact Nat.le_of_lt hbefore

/-- The decorated definition of a derivation is alone on its lines. -/
theorem Derives.laid_decorated (hordered : Ordered tokens.toList) (hapart : Apart tokens.toList)
    (h : Derives language check tokens p i j trees) (hp : Phrase.isDecoration p = true)
    (hi : BeginsLine tokens i) (hlaid : Laid tokens i j (Tree.allStmts trees)) (s : Span) :
    Laid tokens i j (Tree.toStmts (.node .decorated s trees)) := by
  unfold Phrase.isDecoration at hp
  split at hp
  · simp only [Bool.and_eq_true, Bool.or_eq_true, decide_eq_true_eq] at hp
    cases h with
    | @seqCons _ _ _ m _ _ _ hdecorators hrest =>
      cases hrest with
      | seqCons hdefinition hnil =>
        cases hnil
        obtain ⟨t, more, rfl, hsigned⟩ := hdecorators.signed_many1 hordered hapart hp.1 hi
        obtain ⟨hkeyword, hj⟩ := hdefinition.keyword hp.2
        obtain ⟨kind, inner, hkind, rfl⟩ := hdefinition.definition hp.2
        obtain ⟨plain, form, hplain, hform, hall, hnone, hstmts, hexprs⟩ :=
          Tree.decorate_definition hkind hsigned.silent s (spanBetween tokens m j) inner
        rw [List.append_nil] at hlaid ⊢
        rw [hall] at hlaid
        rw [hstmts]
        have hnested := hlaid.nested _ (List.mem_singleton_self _)
          (by simp [Stmt.isStatement, Stmt.form, hplain])
        exact hlaid.decorate hnone hplain (hsigned.decorates hordered hapart hdecorators.le
          hdefinition.le hkeyword hj hform hexprs hnested)
  · cases hp

end

/-! ## How the grammar lays statements out -/

/-- Rules whose phrases may begin with a decorated definition, and so have to begin a line. -/
def Rule.beginsLine : Rule → Bool
  | .file | .statements | .statement | .compoundStatement | .functionDef | .classDef => true
  | _ => false

namespace Phrase

/-- Whether a phrase with a label is laid out as its statement has to be: a decorated definition
begins a line, a statement with others in it begins with a word, and one without stays inside a
line. -/
def laysNode (fresh : Bool) (kind : Kind) (p : Phrase) : Bool :=
  match kind with
  | .decorated => fresh && isDecoration p
  | .function | .classDef | .compound => opensWithWord p
  | .importFrom | .expressionStatement | .simple => staysInLine p && takes p
  | _ => true

mutual

/-- Whether all statements of a phrase are laid out so; `fresh` says that a line begins with it. -/
def lays (fresh : Bool) : Phrase → Bool
  | .rule r => !r.beginsLine || fresh
  | .seq ps => seqLays fresh ps
  | .alt ps => allLay fresh ps
  | .commit head body otherwise =>
    lays fresh head && lays (endsLine fresh head) body && lays fresh otherwise
  | .optional p | .checked p _ | .plain p => lays fresh p
  | .many p => lays (fresh && endsLine true p) p
  | .many1 p => lays fresh p && lays (endsLine fresh p && endsLine true p) p
  | .sepBy p sep => lays false p && lays false sep && lays (endsLine false sep) p
  | .node kind p => lays fresh p && laysNode fresh kind p
  | .chain head steps => lays fresh head && stepsAreExpressions steps
  | .terminal _ | .keep _ | .ahead _ | .notAhead _ | .forced _ | .refuse _ _ | .hint _ => true

/-- The same for phrases one after the other. -/
def seqLays (fresh : Bool) : List Phrase → Bool
  | [] => true
  | p :: ps => lays fresh p && seqLays (endsLine fresh p) ps

/-- The same for each of several phrases. -/
def allLay (fresh : Bool) : List Phrase → Bool
  | [] => true
  | p :: ps => lays fresh p && allLay fresh ps

end

/-- All rules lay their statements out. -/
theorem lays_body (r : Rule) : lays r.beginsLine r.body = true := by
  cases r <;> decide +kernel

/-- Every one of several phrases that lay their statements out does. -/
theorem lays_of_mem {fresh : Bool} {p : Phrase} {ps : List Phrase} (h : allLay fresh ps = true)
    (hp : p ∈ ps) : lays fresh p = true :=
  of_mem_all (fun _ _ => rfl) h hp

end Phrase

section
variable {check : Field → Option Fault} {tokens : Array Token} {i m j : Nat} {p : Phrase}
  {trees : List Tree}

/-- The statement of a labelled phrase is laid out, if what it holds is. -/
theorem Derives.laid_node (hordered : Ordered tokens.toList) (hapart : Apart tokens.toList)
    (h : Derives language check tokens p i j trees) {fresh : Bool} {kind : Kind}
    (hfresh : fresh = true → BeginsLine tokens i) (hp : Phrase.laysNode fresh kind p = true)
    (hlaid : Laid tokens i j (Tree.allStmts trees)) :
    Laid tokens i j (Tree.toStmts (.node kind (spanBetween tokens i j) trees)) := by
  have hline {k : Token} (hk : tokens[i]? = some k) :
      (spanBetween tokens i j).line = k.span.line := congrArg Prod.fst (spanBetween_start hk j)
  -- a statement that begins with a word may hold others
  have hblock {form : Form} (hform : (Stmt.mk form (spanBetween tokens i j)
      (Tree.allStmts trees)).decorators = []) (hword : Phrase.opensWithWord p = true) :
      Laid tokens i j [.mk form (spanBetween tokens i j) (Tree.allStmts trees)] := by
    obtain ⟨hij, k, hk, hname⟩ := h.opensWithWord hword
    apply Laid.statement hordered hapart hform hij hk _ (hline hk) _ hlaid
    · simp [Token.isLayout, hname]
    · simp [hname]
  -- one inside a line holds none
  have hsimple {form : Form} (hform : (Stmt.mk form (spanBetween tokens i j) []).decorators = [])
      (hstays : (Phrase.staysInLine p && Phrase.takes p) = true) :
      Laid tokens i j [.mk form (spanBetween tokens i j) []] := by
    rw [Bool.and_eq_true] at hstays
    obtain ⟨x, a, hix, hxj, -⟩ := h.hasSolid hstays.2
    obtain ⟨k, hk, hsolid⟩ := h.allSolid hstays.1 i (Nat.le_refl i) (by omega)
    exact Laid.statement hordered hapart hform (by omega) hk hsolid (hline hk) (fun _ => rfl) .nil
  cases kind with
  | decorated =>
    simp only [Phrase.laysNode, Bool.and_eq_true] at hp
    exact h.laid_decorated hordered hapart hp.2 (hfresh hp.1) hlaid _
  | function | classDef | compound => exact hblock rfl hp
  | importFrom | simple => exact hsimple rfl hp
  | expressionStatement =>
    cases trees with
    | nil => exact .nil
    | cons value rest => exact hsimple rfl hp
  | arm => exact hlaid.arm
  | _ => exact .nil

/-- The statements of a derivation are laid out. -/
theorem Derives.laid (hordered : Ordered tokens.toList) (hapart : Apart tokens.toList)
    (h : Derives language check tokens p i j trees) {fresh : Bool}
    (hfresh : fresh = true → BeginsLine tokens i) (hp : Phrase.lays fresh p = true) :
    Laid tokens i j (Tree.allStmts trees) := by
  have hfalse (n : Nat) : false = true → BeginsLine tokens n := nofun
  induction h generalizing fresh with
  | terminal | keep | forced | seqNil | optionalNone | manyNil | ahead | notAhead => exact .nil
  | @rule r i j trees hbody ih =>
    apply ih _ (Phrase.lays_body r)
    intro hbegins
    exact hfresh (by simpa [Phrase.lays, hbegins] using hp)
  | alt hmem _ ih => exact ih hfresh (Phrase.lays_of_mem hp hmem)
  | optionalSome _ ih | checked _ _ ih | plain _ ih => exact ih hfresh hp
  | seqCons hfirst hrest ih₁ ih₂ =>
    simp only [Phrase.lays, Phrase.seqLays, Bool.and_eq_true] at hp
    rw [Tree.allStmts_append]
    exact .append hordered hapart hfirst.le hrest.le (ih₁ hfresh hp.1)
      (ih₂ (hfirst.beginsLine hfresh) hp.2)
  | commit hhead hbody ih₁ ih₂ =>
    simp only [Phrase.lays, Bool.and_eq_true] at hp
    rw [Tree.allStmts_append]
    exact .append hordered hapart hhead.le hbody.le (ih₁ hfresh hp.1.1)
      (ih₂ (hhead.beginsLine hfresh) hp.1.2)
  | otherwise _ ih =>
    simp only [Phrase.lays, Bool.and_eq_true] at hp
    exact ih hfresh hp.2
  | @manyCons p i m j first rest hfirst hrest ih₁ ih₂ =>
    -- each turn begins a line if the first does and turns end lines
    have hturn : (fresh && Phrase.endsLine true p) = true → BeginsLine tokens i := by
      intro hturn
      exact hfresh (Bool.and_eq_true_iff.mp hturn).1
    have hnext : (fresh && Phrase.endsLine true p) = true → BeginsLine tokens m := by
      intro hturn
      rw [Bool.and_eq_true] at hturn
      exact hfirst.beginsLine (fun _ : true = true => hfresh hturn.1) hturn.2
    rw [Tree.allStmts_append]
    apply Laid.append hordered hapart hfirst.le hrest.le (ih₁ hturn hp)
    apply ih₂ hnext
    rw [Phrase.lays, Bool.and_assoc, Bool.and_self]
    exact hp
  | many1 hfirst hrest ih₁ ih₂ =>
    simp only [Phrase.lays, Bool.and_eq_true] at hp
    rw [Tree.allStmts_append]
    exact .append hordered hapart hfirst.le hrest.le (ih₁ hfresh hp.1)
      (ih₂ (hfirst.beginsLine hfresh) hp.2)
  | sepBy hfirst hrest ih₁ ih₂ =>
    simp only [Phrase.lays, Bool.and_eq_true] at hp
    rw [Tree.allStmts_append]
    apply Laid.append hordered hapart hfirst.le hrest.le (ih₁ (hfalse _) hp.1.1)
    apply ih₂ (hfalse _)
    simp [Phrase.lays, Phrase.seqLays, hp.1.2, hp.2]
  | chainHead _ ih =>
    simp only [Phrase.lays, Bool.and_eq_true] at hp
    exact ih hfresh hp.1
  | chainStep _ hmem _ _ _ =>
    simp only [Phrase.lays, Bool.and_eq_true] at hp
    rw [Tree.allStmts, Tree.allStmts, List.append_nil,
      Tree.toStmts_of_isExpression (Phrase.isExpression_of_mem hp.2 hmem)]
    exact .nil
  | node hbody ih =>
    simp only [Phrase.lays, Bool.and_eq_true] at hp
    rw [Tree.allStmts, Tree.allStmts, List.append_nil]
    exact hbody.laid_node hordered hapart hfresh hp.2 (ih hfresh hp.1)

end

/-- In a program each decorated definition has a stretch of logical lines, from the sign of its
first decorator on, and it is alone on the lines of this stretch. -/
theorem parse_decorated {source : List Char} {stmts : List Stmt} (h : parse source = .ok stmts)
    {d : Stmt} (hd : d ∈ Stmt.preorderAll stmts) (hdecorators : d.decorators ≠ []) :
    ∃ b c e, Decorates (SourceText.ofSource source).tokens.tokens b c d e ∧
      ∀ l, Stands (SourceText.ofSource source).tokens.tokens b c l → Sole l d stmts := by
  have hordered := (SourceText.ofSource source).tokens_ordered
  have hapart := (SourceText.ofSource source).tokens_apart
  obtain ⟨j, trees, hderives, rfl⟩ := exists_derives_of_parse h
  have hlaid := hderives.laid hordered hapart (fun _ : true = true => BeginsLine.zero) rfl
  obtain ⟨b, c, e, -, -, hdecorates, hsole⟩ := hlaid.decorated d hd hdecorators
  exact ⟨b, c, e, hdecorates, hsole⟩

end NodeLint.Source
