import NodeLint.Proofs.DeadPragma
import NodeLint.Proofs.Decoration
import NodeLint.Proofs.LevelOrder

/-!
# Statements that hold others

A statement that holds others takes logical lines of its own: it begins a line with a word, holds
nothing before that word, and ends a line. Everything else that is introduced on its lines is in it.
The level order therefore comes to it first, and a line on which it is introduced has its range.

For a decorated definition this is known from its decorators. For the others it is shown in the same
way, by induction over derivations.
-/

namespace NodeLint

namespace StatementRanges

open Source Stmt

section
variable {l : Nat} {d s : Stmt} {ds : List Expr}

/-- What a statement holds is smaller. -/
theorem size_within?_le {a : List Nat} (h : s.within? a = some d) :
    size d + a.length ≤ size s := by
  induction a generalizing s with
  | nil => exact Nat.le_of_eq (congrArg size (Option.some.inj h).symm)
  | cons n a ih =>
    obtain ⟨t, ht, hd⟩ := Option.bind_eq_some_iff.mp h
    have hle := ih hd
    obtain ⟨form, span, body⟩ := s
    obtain ⟨before, behind, rfl⟩ := List.append_of_mem (List.mem_of_getElem? ht)
    rw [size, sizeAll_append, sizeAll, List.length_cons]
    omega

/-- No statement is in itself. -/
theorem not_mem_preorderAll_body : s ∉ preorderAll s.body := by
  intro h
  obtain ⟨a, ha⟩ := mem_preorderAll_iff.mp h
  cases a with
  | nil => cases ha
  | cons n a =>
    have hle := size_within?_le (a := n :: a) ha
    rw [List.length_cons] at hle
    omega

/-- Without decorators a statement is introduced on its first line only. -/
theorem eq_line_of_mem_introducing (hs : s.decorators = []) (hl : l ∈ introducing s) :
    l = s.line := by
  rcases (mem_introducing_iff.mp hl).2 with hline | ⟨⟨e, he, -⟩, -⟩
  · exact hline.symm
  · rw [hs] at he
    cases he

/-- A statement and what it holds. -/
theorem mem_preorderAll_singleton : d ∈ preorderAll [s] ↔ d = s ∨ d ∈ preorderAll s.body := by
  obtain ⟨form, span, body⟩ := s
  exact Laid.mem_preorderAll_singleton

/-- Decorators change the lines a definition is introduced on, and nothing in it. -/
theorem decorate_eq (ds : List Expr) (s : Stmt) :
    (s.decorate ds).body = s.body ∧ (s.decorate ds).line = s.line ∧
      (s.decorate ds).isStatement = s.isStatement := by
  obtain ⟨form, span, body⟩ := s
  cases form <;> exact ⟨rfl, rfl, rfl⟩

/-- A statement that is alone on a line in a definition is so when the definition is decorated,
unless the decorators are behind the keyword. -/
theorem Sole.decorate (h : Sole l d [s]) (hd : d ∈ preorderAll s.body)
    (hs : s.isStatement = true) (hfirst : ∀ first ∈ introducing (s.decorate ds), first ≤ s.line) :
    Sole l d [s.decorate ds] := by
  cases h with
  | here =>
    -- the definition would be in itself
    exact absurd hd not_mem_preorderAll_body
  | behind _ hrest => cases hrest
  | inside hbefore hbody =>
    have hline : s.line < l := hbefore s.line (by simp [introducing, hs])
    refine .inside ?_ ?_ free_nil
    · intro first hmem
      exact Nat.lt_of_le_of_lt (hfirst first hmem) hline
    · rw [(decorate_eq ds s).1]
      exact hbody

end

end StatementRanges

namespace Source

open StatementRanges

/-! ## Lines of one statement -/

/-- A statement is alone on the logical lines of a stretch of tokens, on one of which it begins. -/
structure Alone (tokens : Array Token) (b c : Nat) (d : Stmt) (stmts : List Stmt) : Prop where
  begins : BeginsLine tokens b
  ends : BeginsLine tokens c
  stands : Stands tokens b c d.line
  sole : ∀ l, Stands tokens b c l → Sole l d stmts

/-- Statements on a stretch of tokens. Those that hold others and have no decorators are alone on
lines of their own, which do not begin before a certain token. -/
structure Blocks (tokens : Array Token) (i low j : Nat) (stmts : List Stmt) : Prop extends
    Laid tokens i j stmts where
  alone : ∀ d ∈ Stmt.preorderAll stmts, d.isStatement = true → d.body ≠ [] → d.decorators = [] →
    ∃ b c, low ≤ b ∧ c ≤ j ∧ Alone tokens b c d stmts

section
variable {tokens : Array Token} {i low m j b c : Nat} {d s : Stmt} {stmts others : List Stmt}

namespace Alone

/-- Statements on later lines change nothing. -/
theorem append_right (hordered : Ordered tokens.toList) (hapart : Apart tokens.toList)
    (h : Alone tokens b c d stmts) (hcm : c ≤ m) (hothers : Laid tokens m j others) :
    Alone tokens b c d (stmts ++ others) := by
  refine ⟨h.begins, h.ends, h.stands, ?_⟩
  intro l hl
  apply (h.sole l hl).append_right
  intro s hs hintro
  exact Nat.lt_irrefl l
    (hl.lt hordered hapart h.ends (Nat.le_refl c) hcm (hothers.introduced s hs l hintro))

/-- Nor do statements on earlier lines. -/
theorem append_left (hordered : Ordered tokens.toList) (hapart : Apart tokens.toList)
    (hothers : Laid tokens i m others) (hmb : m ≤ b) (h : Alone tokens b c d stmts) :
    Alone tokens b c d (others ++ stmts) := by
  refine ⟨h.begins, h.ends, h.stands, ?_⟩
  intro l hl
  apply Sole.append_left _ (h.sole l hl)
  intro s hs hintro
  exact Nat.lt_irrefl l
    ((hothers.introduced s hs l hintro).lt hordered hapart h.begins hmb (Nat.le_refl b) hl)

/-- A statement around it, introduced on earlier lines, neither. -/
theorem inside (hordered : Ordered tokens.toList) (hapart : Apart tokens.toList)
    (hs : ∀ first ∈ introducing s, Stands tokens i b first) (h : Alone tokens b c d s.body) :
    Alone tokens b c d [s] := by
  refine ⟨h.begins, h.ends, h.stands, ?_⟩
  intro l hl
  refine .inside ?_ (h.sole l hl) free_nil
  intro first hfirst
  exact (hs first hfirst).lt hordered hapart h.begins (Nat.le_refl b) (Nat.le_refl b) hl

end Alone

namespace Blocks

/-- No statements. -/
theorem nil : Blocks tokens i low j [] := ⟨.nil, nofun⟩

/-- The lines may begin earlier. -/
theorem mono {low' : Nat} (h : Blocks tokens i low j stmts) (hlow : low' ≤ low) :
    Blocks tokens i low' j stmts := by
  refine ⟨h.toLaid, ?_⟩
  intro d hd hstatement hbody hdecorators
  obtain ⟨b, c, hlowb, hcj, halone⟩ := h.alone d hd hstatement hbody hdecorators
  exact ⟨b, c, Nat.le_trans hlow hlowb, hcj, halone⟩

/-- Statements on adjacent stretches. -/
theorem append (hordered : Ordered tokens.toList) (hapart : Apart tokens.toList) (him : i ≤ m)
    (hlow : low ≤ m) (hmj : m ≤ j) (hfirst : Blocks tokens i low m stmts)
    (hrest : Blocks tokens m m j others) : Blocks tokens i low j (stmts ++ others) := by
  refine ⟨.append hordered hapart him hmj hfirst.toLaid hrest.toLaid, ?_⟩
  intro d hd hstatement hbody hdecorators
  rw [Stmt.preorderAll_append, List.mem_append] at hd
  rcases hd with hd | hd
  · obtain ⟨b, c, hb, hc, halone⟩ := hfirst.alone d hd hstatement hbody hdecorators
    exact ⟨b, c, hb, Nat.le_trans hc hmj, halone.append_right hordered hapart hc hrest.toLaid⟩
  · obtain ⟨b, c, hb, hc, halone⟩ := hrest.alone d hd hstatement hbody hdecorators
    exact ⟨b, c, Nat.le_trans hlow hb, hc, halone.append_left hordered hapart hfirst.toLaid hb⟩

variable {form : Form} {span : Span} {body : List Stmt}

/-- A statement that begins and ends a line with a solid token before what it holds. -/
theorem statement (hordered : Ordered tokens.toList) (hapart : Apart tokens.toList)
    (hdecorators : (Stmt.mk form span body).decorators = [])
    (hlaid : Laid tokens i j [.mk form span body]) (hi : BeginsLine tokens i)
    (hj : BeginsLine tokens j) (hlow : low ≤ j) (hstands : Stands tokens i low span.line)
    (h : Blocks tokens i low j body) : Blocks tokens i i j [.mk form span body] := by
  refine ⟨hlaid, ?_⟩
  intro d hd hstatement hbody hnone
  rcases mem_preorderAll_singleton.mp hd with rfl | hd
  · refine ⟨i, j, Nat.le_refl i, Nat.le_refl j, hi, hj, hstands.mono (Nat.le_refl i) hlow, ?_⟩
    exact fun l _ => .here free_nil
  · obtain ⟨b, c, hb, hc, halone⟩ := h.alone d hd hstatement hbody hnone
    have hib : i ≤ b := by
      obtain ⟨x, -, hix, hxlow, -⟩ := hstands
      omega
    refine ⟨b, c, hib, hc, halone.inside (i := i) (s := .mk form span body) hordered hapart ?_⟩
    intro first hfirst
    obtain rfl := eq_line_of_mem_introducing hdecorators hfirst
    exact hstands.mono (Nat.le_refl i) hb

/-- An arm around statements. -/
theorem arm (hordered : Ordered tokens.toList) (hapart : Apart tokens.toList)
    (h : Blocks tokens i low j body) : Blocks tokens i low j [.mk .arm span body] := by
  refine ⟨h.toLaid.arm, ?_⟩
  intro d hd hstatement hbody hnone
  rcases mem_preorderAll_singleton.mp hd with rfl | hd
  · cases hstatement
  · obtain ⟨b, c, hb, hc, halone⟩ := h.alone d hd hstatement hbody hnone
    have harm : introducing (.mk .arm span body) = [] := rfl
    exact ⟨b, c, hb, hc, halone.inside (i := b) (s := .mk .arm span body) hordered hapart
      (by simp [harm])⟩

/-- A statement that holds none. -/
theorem empty (hlaid : Laid tokens i j [.mk form span []]) :
    Blocks tokens i low j [.mk form span []] := by
  refine ⟨hlaid, ?_⟩
  intro d hd _ hbody
  rcases mem_preorderAll_singleton.mp hd with rfl | hd
  · exact absurd rfl hbody
  · cases hd

/-- A definition on which decorators are put, none of them behind its keyword. -/
theorem decorate {ds : List Expr} (hlaid : Laid tokens i j [s.decorate ds])
    (hdecorators : (s.decorate ds).decorators ≠ [])
    (hfirst : ∀ first ∈ introducing (s.decorate ds), first ≤ s.line) (hs : s.isStatement = true)
    (h : Blocks tokens i low j [s]) : Blocks tokens i low j [s.decorate ds] := by
  refine ⟨hlaid, ?_⟩
  intro d hd hstatement hbody hnone
  rcases mem_preorderAll_singleton.mp hd with rfl | hd
  · exact absurd hnone hdecorators
  · rw [(decorate_eq ds s).1] at hd
    obtain ⟨b, c, hb, hc, halone⟩ :=
      h.alone d (mem_preorderAll_singleton.mpr (Or.inr hd)) hstatement hbody hnone
    refine ⟨b, c, hb, hc, halone.begins, halone.ends, halone.stands, ?_⟩
    intro l hl
    exact (halone.sole l hl).decorate hd hs hfirst

end Blocks

end

/-! ## How the grammar lays them out -/

/-- Rules whose phrases may begin with a statement that holds others: they have to begin a line. -/
def Rule.opensLine : Rule → Bool
  | .functionDefRaw | .classDefRaw | .ifStatement | .elifStatement | .whileStatement
  | .forStatement | .withStatement | .tryStatement | .matchStatement => true
  | r => r.beginsLine

namespace Phrase

/-- How many tokens a phrase is known to take before what it holds. -/
def lead : Phrase → Nat
  | .terminal _ | .seq (.terminal _ :: _) | .refuse _ _ | .hint _ => 1
  | .commit head _ otherwise => min (lead head) (lead otherwise)
  | _ => 0

/-- Whether a phrase with a label, if its statement holds others, takes lines of its own and has a
token before what it holds. -/
def ownsLines (fresh : Bool) (kind : Kind) (p : Phrase) : Bool :=
  match kind with
  | .function | .classDef | .compound => fresh && endsLine fresh p && 0 < lead p
  | _ => true

mutual

/-- Whether all statements of a phrase are laid out and those that hold others take lines of their
own; `fresh` says that a line begins with the phrase. -/
def opens (fresh : Bool) : Phrase → Bool
  | .rule r => !r.opensLine || fresh
  | .seq ps => seqOpens fresh ps
  | .alt ps => allOpen fresh ps
  | .commit head body otherwise =>
    opens fresh head && opens (endsLine fresh head) body && opens fresh otherwise
  | .optional p | .checked p _ | .plain p => opens fresh p
  | .many p => opens (fresh && endsLine true p) p
  | .many1 p => opens fresh p && opens (endsLine fresh p && endsLine true p) p
  | .sepBy p sep => opens false p && opens false sep && opens (endsLine false sep) p
  | .node kind p => opens fresh p && laysNode fresh kind p && ownsLines fresh kind p
  | .chain head steps => opens fresh head && stepsAreExpressions steps
  | .terminal _ | .keep _ | .ahead _ | .notAhead _ | .forced _ | .refuse _ _ | .hint _ => true

/-- The same for phrases one after the other. -/
def seqOpens (fresh : Bool) : List Phrase → Bool
  | [] => true
  | p :: ps => opens fresh p && seqOpens (endsLine fresh p) ps

/-- The same for each of several phrases. -/
def allOpen (fresh : Bool) : List Phrase → Bool
  | [] => true
  | p :: ps => opens fresh p && allOpen fresh ps

end

/-- All rules lay their statements out so. -/
theorem opens_body (r : Rule) : opens r.opensLine r.body = true := by
  cases r <;> decide +kernel

/-- Every one of several phrases that lay their statements out so does. -/
theorem opens_of_mem {fresh : Bool} {p : Phrase} {ps : List Phrase} (h : allOpen fresh ps = true)
    (hp : p ∈ ps) : opens fresh p = true :=
  of_mem_all (fun _ _ => rfl) h hp

/-- The first of several phrases leads them. -/
theorem lead_seq_le (p : Phrase) (ps : List Phrase) : lead (.seq (p :: ps)) ≤ lead p := by
  cases p with
  | terminal => exact Nat.le_refl 1
  | _ => exact Nat.zero_le _

end Phrase

section
variable {check : Field → Option Fault} {tokens : Array Token} {i low m j : Nat} {p : Phrase}
  {trees : List Tree}

/-- A phrase takes the tokens it is known to take. -/
theorem Derives.lead_le (h : Derives language check tokens p i j trees) : i + p.lead ≤ j := by
  fun_induction Phrase.lead p generalizing i j trees with
  | case1 =>
    cases h
    exact Nat.le_refl _
  | case2 =>
    cases h with
    | seqCons hfirst hrest =>
      cases hfirst
      exact hrest.le
  | case3 | case4 => cases h
  | case5 head body otherwise ih₁ ih₂ =>
    cases h with
    | commit hhead hbody =>
      have hlead := ih₁ hhead
      have hle := hbody.le
      omega
    | otherwise hotherwise =>
      have hlead := ih₂ hotherwise
      omega
  | case6 => exact h.le

/-- The decorated definition of a derivation. -/
theorem Derives.blocks_decorated (hordered : Ordered tokens.toList) (hapart : Apart tokens.toList)
    (h : Derives language check tokens p i j trees) (hp : Phrase.isDecoration p = true)
    (hi : BeginsLine tokens i) (hblocks : Blocks tokens i low j (Tree.allStmts trees)) (s : Span) :
    Blocks tokens i low j (Tree.toStmts (.node .decorated s trees)) := by
  have hlaid := h.laid_decorated hordered hapart hp hi hblocks.toLaid s
  obtain ⟨st, -, first, hstmts, -, -, -, -, hintroducing, hfirst, -⟩ := h.decorated hordered hp s
  rw [hstmts] at hlaid ⊢
  rw [Tree.toStmts] at hstmts
  obtain ⟨plain, hplain, rfl⟩ := List.map_eq_singleton_iff.mp hstmts
  rw [hplain] at hblocks
  obtain ⟨-, hline, hstatement⟩ := decorate_eq (trees.dropLast.map Tree.toExpr) plain
  apply hblocks.decorate hlaid
  · intro hnil
    have hsingle := (mem_introducing_iff.mp (hintroducing ▸ List.mem_cons_self)).1
    rw [introducing, hnil, if_pos hsingle] at hintroducing
    cases hintroducing
  · intro l hl
    rw [hintroducing, hline, List.mem_cons, List.mem_singleton] at hl
    rw [hline] at hfirst
    omega
  · rw [← hstatement]
    exact (mem_introducing_iff.mp (hintroducing ▸ List.mem_cons_self)).1

/-- The statement of a labelled phrase, if what it holds is laid out so. -/
theorem Derives.blocks_node (hordered : Ordered tokens.toList) (hapart : Apart tokens.toList)
    (h : Derives language check tokens p i j trees) {fresh : Bool} {kind : Kind}
    (hfresh : fresh = true → BeginsLine tokens i) (hlays : Phrase.laysNode fresh kind p = true)
    (hp : Phrase.ownsLines fresh kind p = true)
    (hblocks : Blocks tokens i (i + p.lead) j (Tree.allStmts trees)) :
    Blocks tokens i i j (Tree.toStmts (.node kind (spanBetween tokens i j) trees)) := by
  have hlaid := h.laid_node hordered hapart hfresh hlays hblocks.toLaid
  have hblock {form : Form} (hform : (Stmt.mk form (spanBetween tokens i j)
      (Tree.allStmts trees)).decorators = []) (hword : Phrase.opensWithWord p = true)
      (howns : (fresh && Phrase.endsLine fresh p && decide (0 < p.lead)) = true)
      (hlaid : Laid tokens i j [.mk form (spanBetween tokens i j) (Tree.allStmts trees)]) :
      Blocks tokens i i j [.mk form (spanBetween tokens i j) (Tree.allStmts trees)] := by
    simp only [Bool.and_eq_true, decide_eq_true_eq] at howns
    obtain ⟨⟨hbegins, hends⟩, hlead⟩ := howns
    obtain ⟨-, k, hk, hname⟩ := h.opensWithWord hword
    apply hblocks.statement hordered hapart hform hlaid (hfresh hbegins)
      (h.beginsLine hfresh hends) h.lead_le
    exact ⟨i, k, Nat.le_refl i, by omega, hk, by simp [Token.isLayout, hname],
      (congrArg Prod.fst (spanBetween_start hk j)).symm⟩
  cases kind with
  | decorated =>
    simp only [Phrase.laysNode, Bool.and_eq_true] at hlays
    exact (h.blocks_decorated hordered hapart hlays.2 (hfresh hlays.1) hblocks _).mono
      (Nat.le_add_right i _)
  | function | classDef | compound => exact hblock rfl hlays hp hlaid
  | importFrom | simple => exact .empty hlaid
  | expressionStatement =>
    cases trees with
    | nil => exact .nil
    | cons value rest => exact .empty hlaid
  | arm => exact (hblocks.arm hordered hapart).mono (Nat.le_add_right i _)
  | _ => exact .nil

/-- The statements of a derivation that hold others are alone on lines of their own. -/
theorem Derives.blocks (hordered : Ordered tokens.toList) (hapart : Apart tokens.toList)
    (h : Derives language check tokens p i j trees) {fresh : Bool}
    (hfresh : fresh = true → BeginsLine tokens i) (hp : Phrase.opens fresh p = true) :
    Blocks tokens i (i + p.lead) j (Tree.allStmts trees) := by
  have hfalse (n : Nat) : false = true → BeginsLine tokens n := nofun
  -- most phrases are not led by a token of their own
  have hback {stmts : List Stmt} {p : Phrase} {i j : Nat}
      (h : Blocks tokens i (i + p.lead) j stmts) : Blocks tokens i i j stmts :=
    h.mono (Nat.le_add_right i _)
  induction h generalizing fresh with
  | terminal | keep | forced | seqNil | optionalNone | manyNil | ahead | notAhead => exact .nil
  | @rule r i j trees hbody ih =>
    refine (ih ?_ (Phrase.opens_body r)).mono (Nat.le_add_right i _)
    intro hopens
    exact hfresh (by simpa [Phrase.opens, hopens] using hp)
  | alt hmem _ ih => exact hback (ih hfresh (Phrase.opens_of_mem hp hmem))
  | optionalSome _ ih | checked _ _ ih | plain _ ih => exact hback (ih hfresh hp)
  | @seqCons p ps i m j _ _ hfirst hrest ih₁ ih₂ =>
    simp only [Phrase.opens, Phrase.seqOpens, Bool.and_eq_true] at hp
    rw [Tree.allStmts_append]
    -- what leads the first phrase leads all of them
    have hlead := Phrase.lead_seq_le p ps
    have hle := hfirst.lead_le
    apply Blocks.append hordered hapart hfirst.le (by omega) hrest.le
    · exact (ih₁ hfresh hp.1).mono (by omega)
    · exact hback (ih₂ (hfirst.beginsLine hfresh) hp.2)
  | @commit head body otherwise i m j _ _ hhead hbody ih₁ ih₂ =>
    simp only [Phrase.opens, Bool.and_eq_true] at hp
    rw [Tree.allStmts_append, Phrase.lead]
    have hle := hhead.lead_le
    apply Blocks.append hordered hapart hhead.le (by omega) hbody.le
    · exact (ih₁ hfresh hp.1.1).mono (by omega)
    · exact hback (ih₂ (hhead.beginsLine hfresh) hp.1.2)
  | otherwise _ ih =>
    simp only [Phrase.opens, Bool.and_eq_true] at hp
    exact (ih hfresh hp.2).mono (by rw [Phrase.lead]; omega)
  | @manyCons p i m j first rest hfirst hrest ih₁ ih₂ =>
    -- each turn begins a line if the first does and turns end lines
    have hturn : (fresh && Phrase.endsLine true p) = true → BeginsLine tokens i := by
      intro hturn
      exact hfresh (Bool.and_eq_true_iff.mp hturn).1
    have hnext : (fresh && Phrase.endsLine true p) = true → BeginsLine tokens m := by
      intro hturn
      rw [Bool.and_eq_true] at hturn
      exact hfirst.beginsLine (fun _ : true = true => hfresh hturn.1) hturn.2
    rw [Tree.allStmts_append]
    apply Blocks.append hordered hapart hfirst.le hfirst.le hrest.le (hback (ih₁ hturn hp))
    apply ih₂ hnext
    rw [Phrase.opens, Bool.and_assoc, Bool.and_self]
    exact hp
  | many1 hfirst hrest ih₁ ih₂ =>
    simp only [Phrase.opens, Bool.and_eq_true] at hp
    rw [Tree.allStmts_append]
    exact .append hordered hapart hfirst.le hfirst.le hrest.le (hback (ih₁ hfresh hp.1))
      (ih₂ (hfirst.beginsLine hfresh) hp.2)
  | sepBy hfirst hrest ih₁ ih₂ =>
    simp only [Phrase.opens, Bool.and_eq_true] at hp
    rw [Tree.allStmts_append]
    apply Blocks.append hordered hapart hfirst.le hfirst.le hrest.le
      (hback (ih₁ (hfalse _) hp.1.1))
    apply ih₂ (hfalse _)
    simp [Phrase.opens, Phrase.seqOpens, hp.1.2, hp.2]
  | chainHead _ ih =>
    simp only [Phrase.opens, Bool.and_eq_true] at hp
    exact hback (ih hfresh hp.1)
  | chainStep _ hmem _ _ _ =>
    simp only [Phrase.opens, Bool.and_eq_true] at hp
    rw [Tree.allStmts, Tree.allStmts, List.append_nil,
      Tree.toStmts_of_isExpression (Phrase.isExpression_of_mem hp.2 hmem)]
    exact .nil
  | node hbody ih =>
    simp only [Phrase.opens, Bool.and_eq_true] at hp
    rw [Tree.allStmts, Tree.allStmts, List.append_nil]
    exact hbody.blocks_node hordered hapart hfresh hp.1.2 hp.2 (ih hfresh hp.1.1)

end

/-- In a program, a statement that holds others is alone on the lines it is introduced on. -/
theorem parse_sole {source : List Char} {stmts : List Stmt} (h : parse source = .ok stmts)
    {d : Stmt} (hd : d ∈ Stmt.preorderAll stmts) (hbody : d.body ≠ []) {l : Nat}
    (hl : l ∈ introducing d) : Sole l d stmts := by
  by_cases hdecorators : d.decorators = []
  · have hordered := (SourceText.ofSource source).tokens_ordered
    have hapart := (SourceText.ofSource source).tokens_apart
    have hstatement := (mem_introducing_iff.mp hl).1
    obtain rfl := eq_line_of_mem_introducing hdecorators hl
    obtain ⟨j, trees, hderives, rfl⟩ := exists_derives_of_parse h
    have hblocks := hderives.blocks hordered hapart (fun _ : true = true => BeginsLine.zero) rfl
    obtain ⟨b, c, -, -, halone⟩ := hblocks.alone d hd hstatement hbody hdecorators
    exact halone.sole d.line halone.stands
  · obtain ⟨b, c, e, hdecorates, hsole⟩ := parse_decorated h hd hdecorators
    exact hsole l (hdecorates.stands l hl)

end Source

/-! ## Statements in statements on one line -/

namespace StatementRanges

open Source Stmt

/-- A line has the range of a statement: a pragma on a line of its own above it reaches the lines
from there to the end of the statement. -/
structure HasRangeOf (stmts : List Stmt) (l : Nat) (s : Stmt) : Prop where
  lastLine : (ofStmts stmts).lastLine? l = some s.endLine
  reaches : ∀ p : Pragma, p.IsBlock → p.line + 1 = l →
    ∀ line : Int, p.Reaches (some stmts) line ↔ (l : Int) ≤ line ∧ line ≤ s.endLine

section
variable {stmts : List Stmt} {l : Nat} {a b : List Nat} {s : Stmt}

/-- Pragmas go by the last line. -/
theorem hasRangeOf_of_lastLine? (h : (ofStmts stmts).lastLine? l = some s.endLine) :
    HasRangeOf stmts l s := by
  refine ⟨h, ?_⟩
  rintro p hblock rfl line
  simp [Pragma.reaches_block (some stmts) hblock, h]

/-- A statement with another one below it holds something. -/
theorem body_ne_nil (ha : at? stmts a = some s) (hb : (at? stmts b).isSome) (hab : a <+: b)
    (hne : a ≠ b) : s.body ≠ [] := by
  intro hnil
  rcases exists_below ha hb hab with heq | ⟨v, hv, -⟩
  · exact hne heq.symm
  · rw [hnil] at hv
    cases hv

end

/-- A line has a range exactly if a statement at any depth is introduced on it, and then it has that
of the least deep one, the first if there are several. Where a statement and another one in it are
introduced on the line, the range is not that of the inner one: if the outer one is around all that
is introduced on the line, then the line has its range. In a program it always is. -/
theorem outermost_introduced (stmts : List Stmt) (l : Nat) :
    (((ofStmts stmts).lastLine? l).isSome ↔ ∃ a s, at? stmts a = some s ∧ IntroducedOn l s) ∧
    (∀ last, (ofStmts stmts).lastLine? l = some last ↔
      ∃ a s, FirstOn stmts l a s ∧ s.endLine = last) ∧
    ∀ a s b t, at? stmts a = some s → at? stmts b = some t → IntroducedOn l s → IntroducedOn l t →
      a <+: b → a ≠ b →
      (∀ c u, FirstOn stmts l c u → c.length < b.length) ∧
      ((∀ c u, at? stmts c = some u → IntroducedOn l u → a <+: c) → HasRangeOf stmts l s) ∧
      ∀ source, parse source = .ok stmts → HasRangeOf stmts l s := by
  refine ⟨isSome_lastLine?_iff, fun last => lastLine?_eq_some_iff, ?_⟩
  intro a s b t ha hb hs ht hab hne
  refine ⟨?_, ?_, ?_⟩
  · intro c u hfirst
    have hle := hfirst.shallowest a s ha hs
    have hlt : a.length < b.length :=
      Nat.lt_of_le_of_ne hab.length_le fun heq => hne (hab.eq_of_length heq)
    omega
  · intro hencloses
    exact hasRangeOf_of_lastLine?
      (lastLine?_eq_some_iff.mpr ⟨a, s, firstOn_of_encloses ha hs hencloses, rfl⟩)
  · intro source hparse
    have hbody := body_ne_nil ha (by rw [hb]; rfl) hab hne
    have hl := mem_introducing_iff.mpr hs
    have hsole := parse_sole hparse (mem_preorderAll_iff.mpr ⟨a, ha⟩) hbody hl
    exact hasRangeOf_of_lastLine? (hsole.lastLine? hl)

/-- A pragma above a branch whose block begins on the same line. -/
def aboveBranch : String := "# graphpc-lint: ignore[A] because: b\nif a: b\nelse:\n c\n"

set_option maxRecDepth 100000 in
/-- The pragma reaches the whole statement, and not only the block. -/
theorem range_aboveBranch :
    let file := SourceFile.ofText ⟨.relative, ["a.py"]⟩ aboveBranch.toList
    ∃ stmts s t, file.tree = .ok stmts ∧ at? stmts [0] = some s ∧ at? stmts [0, 0] = some t ∧
      s.line = 2 ∧ t.line = 2 ∧ t.endLine = 2 ∧ (Pragma.read file.lines).map (·.line) = [1] ∧
      ∀ p ∈ Pragma.read file.lines, ∀ line : Int,
        p.Reaches (some stmts) line ↔ 2 ≤ line ∧ line ≤ 4 := by
  intro file
  obtain ⟨hfound, hlines, hblocks⟩ :
      file.tree.toOption.bind (fun stmts => (at? stmts [0]).bind fun s => (at? stmts [0, 0]).map
        fun t => ((s.line, s.endLine, s.isStatement), t.line, t.endLine, t.isStatement)) =
          some ((2, 4, true), 2, 2, true) ∧
      (Pragma.read file.lines).map (·.line) = [1] ∧
      ∀ p ∈ Pragma.read file.lines, p.IsBlock := by
    decide +kernel
  obtain ⟨stmts, htree, hfound⟩ := ok_of_bind_eq_some hfound
  obtain ⟨s, hs, hfound⟩ := Option.bind_eq_some_iff.mp hfound
  obtain ⟨t, ht, hfound⟩ := Option.map_eq_some_iff.mp hfound
  simp only [Prod.mk.injEq] at hfound
  obtain ⟨⟨hline, hend, hstatement⟩, hline', hend', hstatement'⟩ := hfound
  obtain ⟨-, -, hinner⟩ := outermost_introduced stmts 2
  obtain ⟨-, -, hrange⟩ := hinner [0] s [0, 0] t hs ht ⟨hstatement, Or.inl hline⟩
    ⟨hstatement', Or.inl hline'⟩ ⟨[0], rfl⟩ (by decide)
  have hrange := hrange _ (SourceFile.parse_of_tree htree)
  refine ⟨stmts, s, t, htree, hs, ht, hline, hline', hend', hlines, ?_⟩
  intro p hp line
  have hpline : p.line ∈ [1] := hlines ▸ List.mem_map_of_mem hp
  rw [List.mem_singleton] at hpline
  have hreaches := hrange.reaches p (hblocks p hp) (by omega) line
  rw [hend] at hreaches
  exact hreaches

end StatementRanges
end NodeLint
