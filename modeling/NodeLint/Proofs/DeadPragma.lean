import NodeLint.Proofs.Extent
import NodeLint.Proofs.Severity
import NodeLint.Proofs.Spelling

/-!
# Pragmas that do nothing

A pragma is at work if a line that it reaches belongs to a statement. One on a line of its own that
is not at work is above no statement, and is reported. An inline one is never reported, and it is
idle exactly if its own line belongs to no statement.

Inline is whatever stands behind other text, and a comment is such a text, too. Hence the lines with
a pragma that belong to no statement are lines of comments, wherever these are not inside a
statement, and the few lines on which there is nothing but loose tokens. The reader tells these
from all others: a line of any other kind has a token of some statement on it.
-/

namespace NodeLint

open Source

/-! ## Lines that no statement has a token on -/

/-- A line with nothing but a comment. -/
def Text.IsComment (line : List Char) : Prop :=
  ∃ gap rest, line = gap ++ '#' :: rest ∧ Blank gap

namespace SourceFile

variable {path : Path} {text : List Char} {stmts : List Stmt}

/-- The statements of a file are those of its text. -/
theorem parse_of_tree (h : (ofText path text).tree = .ok stmts) : parse text = .ok stmts := by
  simp only [ofText] at h
  split at h
  · cases h
  · split at h
    · rename_i hparse
      rw [hparse, Except.ok.inj h]
    · cases h

/-- In a program, a line with a hash sign is a comment or touched by a token. -/
theorem isComment_or_touched (htree : (ofText path text).tree = .ok stmts) {n : Nat} (hn : 0 < n)
    {line : String} (hline : (ofText path text).lineAt n = some line) (hhash : '#' ∈ line.toList) :
    Text.IsComment line.toList ∨
      ∃ k ∈ (SourceText.ofSource text).tokens.tokens, k.Touches n := by
  obtain ⟨hend, -, -⟩ := parse_covers (parse_of_tree htree)
  have hpiece : (Text.pieces '\n' (terminated text))[n - 1]? = some line.toList := by
    rw [lineAt, lineIn_of_pos _ hn] at hline
    obtain ⟨piece, hpiece, rfl⟩ : ∃ piece, (Text.lines text)[n - 1]? = some piece ∧
        String.ofList piece = line := by simpa [ofText] using hline
    rw [String.toList_ofList]
    exact getElem?_pieces_terminated hpiece
  obtain ⟨left, right, hchars, hcount, hbetween⟩ := Text.getElem?_pieces_iff.mp hpiece
  -- the reader knows fewer blanks than pragmas do: the line is cut at the first character that is
  -- none of them
  have hfirst : (line.toList.find? fun d => ¬ (d = ' ' ∨ d = '\t' ∨ d = '\x0c')).isSome :=
    List.find?_isSome.mpr ⟨'#', hhash, by decide⟩
  obtain ⟨c, hfind⟩ := Option.isSome_iff_exists.mp hfirst
  obtain ⟨hc, blanks, rest, hsplit, hblanks⟩ := List.find?_eq_some_iff_append.mp hfind
  simp only [decide_eq_true_eq, Bool.not_eq_true', decide_eq_false_iff_not, not_not] at hc hblanks
  rw [hsplit] at hchars hbetween hhash
  rcases (SourceText.ofSource text).exists_touching hend hchars hbetween hblanks hc with
    rfl | ⟨rfl, rfl⟩ | htouched
  · refine Or.inl ⟨blanks, rest, hsplit, ?_⟩
    intro d hd
    rcases hblanks d hd with rfl | rfl | rfl <;> rfl
  · have hblank := hblanks '#' (by simpa using hhash)
    simp at hblank
  · have hnumber : left.count '\n' + 1 = n := by omega
    rw [hnumber] at htouched
    exact Or.inr htouched

end SourceFile

/-! ## Pragmas at work -/

/-- The breach of a pragma that does nothing is listed if the pragma is one of the file and
dangles. -/
theorem Breach.dead_mem_listed {g : Governance} {stmts : List Stmt} {ps : List Pragma}
    {p : Pragma} : Breach.dead p ∈ listed g stmts ps ↔ p ∈ ps ∧ p.Dangles (some stmts) := by
  simp [listed, Governance.dangles_iff]

namespace Pragma

/-- The line of a pragma belongs to no statement. -/
def Outside (stmts : List Stmt) (p : Pragma) : Prop :=
  ∀ st ∈ Stmt.preorderAll stmts, ¬ st.Owns p.line

instance (stmts : List Stmt) (p : Pragma) : Decidable (p.Outside stmts) :=
  inferInstanceAs (Decidable (∀ st ∈ Stmt.preorderAll stmts, _))

/-- A line that a pragma reaches belongs to a statement. -/
def IsLive (stmts : List Stmt) (p : Pragma) : Prop :=
  ∃ line : Nat, p.Reaches (some stmts) line ∧ ∃ st ∈ Stmt.preorderAll stmts, st.Owns line

variable {stmts : List Stmt} {p : Pragma}

/-- An inline pragma is at work unless its line belongs to no statement. -/
theorem isLive_inline (hfile : p.isFileLevel = false) (hinline : p.isInline = true) :
    p.IsLive stmts ↔ ¬ p.Outside stmts := by
  have hreaches (line : Nat) : p.Reaches (some stmts) line ↔ line = p.line := by
    rw [reaches_inline (some stmts) hfile hinline, Int.natCast_inj]
  simp [IsLive, Outside, hreaches]

/-- A pragma on a line of its own is at work unless it is above no statement. -/
theorem isLive_block (hplaced : ∀ st ∈ Stmt.preorderAll stmts, st.IsPlaced) (hblock : p.IsBlock) :
    p.IsLive stmts ↔ ¬ p.Dangles (some stmts) := by
  have hdangles : p.Dangles (some stmts) ↔
      (StatementRanges.ofStmts stmts).lastLine? (p.line + 1) = none := by
    simp [Dangles, hblock]
  rw [hdangles]
  constructor
  · intro hlive hnone
    obtain ⟨line, hreaches, -⟩ := hlive
    simp [reaches_block (some stmts) hblock, hnone] at hreaches
  · intro hsome
    obtain ⟨last, hlast⟩ := Option.ne_none_iff_exists'.mp hsome
    have hfound := hlast
    rw [StatementRanges.lastLine?_ofStmts] at hfound
    obtain ⟨st, hst, hend⟩ := List.exists_of_findSome?_eq_some hfound
    obtain ⟨hintro, rfl⟩ : p.line + 1 ∈ StatementRanges.introducing st ∧ st.endLine = last := by
      simpa using hend
    have hst := (StatementRanges.levelOrder_perm _ stmts (Nat.le_refl _)).mem_iff.mp hst
    -- the statement is introduced on the next line, so this line is one of its own
    have hle := hplaced st hst _ hintro
    refine ⟨p.line + 1, ?_, st, hst, _, hintro, Nat.le_refl _, hle⟩
    rw [reaches_block (some stmts) hblock]
    exact ⟨stmts, rfl, st.endLine, hlast, by omega, by omega⟩

/-- A file has at most one pragma on a line. -/
theorem eq_of_line {lines : List String} {q : Pragma} (hp : p ∈ read lines) (hq : q ∈ read lines)
    (hline : p.line = q.line) : p = q := by
  obtain ⟨-, text, htext, hp⟩ := exists_line hp
  obtain ⟨-, text', htext', hq⟩ := exists_line hq
  rw [hline] at htext hp
  obtain rfl : text = text' := Option.some.inj (htext.symm.trans htext')
  exact Option.some.inj (hp.symm.trans hq)

/-- A pragma is reported to do nothing exactly if it dangles. -/
theorem reported_iff {path : Path} {text : String}
    (htree : (SourceFile.ofText path text.toList).tree = .ok stmts) (s : Settings)
    (hp : p ∈ read (SourceFile.ofText path text.toList).lines) :
    (∃ d ∈ s.lintText path text, d.code = "IGN004" ∧ d.location.line = p.line) ↔
      p.Dangles (some stmts) := by
  have hbreaches := s.governance.breaches_eq htree (List.ne_nil_of_mem hp)
  simp only [Settings.lintText, Settings.lintFile_of_tree htree, hbreaches, List.mem_append]
  constructor
  · intro hreported
    obtain ⟨d, hd, hcode, hline⟩ := hreported
    rcases hd with hd | hd
    · obtain ⟨b, hb, rfl⟩ := List.mem_map.mp hd
      cases b with
      | dead q =>
        obtain ⟨hq, hdangles⟩ := Breach.dead_mem_listed.mp hb
        rwa [eq_of_line hp hq (Int.natCast_inj.mp hline.symm)]
      | _ => simp [Breach.diagnostic, Breach.code] at hcode
    · have hfinding := Governance.code_of_findings (List.mem_of_mem_filter hd)
      simp [hcode, Breach.codes] at hfinding
  · intro hdangles
    have hlisted := Breach.dead_mem_listed (g := s.governance).mpr ⟨hp, hdangles⟩
    exact ⟨_, Or.inl (List.mem_map_of_mem hlisted), rfl, rfl⟩

/-- Where the line of a pragma belongs to no statement, it is a comment, or there are only loose
tokens on it. -/
theorem Outside.isComment_or_loose {path : Path} {text : List Char}
    (htree : (SourceFile.ofText path text).tree = .ok stmts)
    (hp : p ∈ read (SourceFile.ofText path text).lines) (h : p.Outside stmts) :
    ∃ line, (SourceFile.ofText path text).lineAt p.line = some line ∧
      (Text.IsComment line.toList ∨
        (∃ k ∈ (SourceText.ofSource text).tokens.tokens, k.Touches p.line) ∧
          ∀ k ∈ (SourceText.ofSource text).tokens.tokens, k.Touches p.line → k.isLoose = true) := by
  obtain ⟨-, hcovered, -⟩ := parse_covers (SourceFile.parse_of_tree htree)
  obtain ⟨hpos, line, hline, hof⟩ := exists_line hp
  have hhash : '#' ∈ line.toList := by
    obtain ⟨⟨before, parts⟩, hsearch, -⟩ := Option.map_eq_some_iff.mp hof
    obtain ⟨⟨rest, hrest, -⟩, -⟩ := search?_shortest hsearch
    simp [hrest]
  refine ⟨line, hline, ?_⟩
  apply (SourceFile.isComment_or_touched htree hpos hline hhash).imp_right
  intro htouched
  refine ⟨htouched, ?_⟩
  intro k hk htouches
  rcases hcovered k hk htouches.solid with hloose | ⟨st, hst, first, hfirst, hle, hend⟩
  · exact hloose
  · refine absurd ⟨first, hfirst, ?_, ?_⟩ (h st (Stmt.mem_preorderAll_of_mem hst))
    · exact Nat.le_trans hle htouches.line_le
    · exact Nat.le_trans htouches.le_endLine hend

/-- In a program, a pragma that is not for the whole file is reported to do nothing, or reaches a
line of a statement, unless it is inline on a line that belongs to no statement. Such a line is a
comment, or has only loose tokens on it. -/
theorem live_or_reported (path : Path) (text : String) (stmts : List Stmt)
    (htree : (SourceFile.ofText path text.toList).tree = .ok stmts) (s : Settings) (p : Pragma)
    (hp : p ∈ read (SourceFile.ofText path text.toList).lines) (hfile : p.isFileLevel = false) :
    let file := SourceFile.ofText path text.toList
    let tokens := (SourceText.ofSource text.toList).tokens.tokens
    ((∃ d ∈ s.lintText path text, d.code = "IGN004" ∧ d.location.line = p.line) ∨ p.IsLive stmts ↔
      ¬ (p.isInline = true ∧ p.Outside stmts)) ∧
    (p.Outside stmts → ∃ line, file.lineAt p.line = some line ∧
      (Text.IsComment line.toList ∨ (∃ k ∈ tokens, k.Touches p.line) ∧
        ∀ k ∈ tokens, k.Touches p.line → k.isLoose = true)) := by
  intro file tokens
  refine ⟨?_, fun houtside => houtside.isComment_or_loose htree hp⟩
  rw [reported_iff htree s hp]
  cases hinline : p.isInline with
  | true =>
    have hnot : ¬ p.Dangles (some stmts) := by simp [Dangles, IsBlock, hinline]
    simp [hnot, isLive_inline hfile hinline]
  | false =>
    obtain ⟨-, -, hplaced⟩ := parse_covers (SourceFile.parse_of_tree htree)
    simp [isLive_block hplaced ⟨hfile, hinline⟩, Classical.em]

/-- A pragma above a statement. -/
def placed : String := "# graphpc-lint: ignore[GPC001] because: b\nx = 1\n"

set_option maxRecDepth 100000 in
/-- The pragma is at work, and nothing is reported. -/
theorem live_placed :
    let file := SourceFile.ofText ⟨.relative, ["a.py"]⟩ placed.toList
    ∃ stmts p, file.tree = .ok stmts ∧ p ∈ read file.lines ∧ p.isFileLevel = false ∧
      ({} : Settings).lintText file.path placed = [] ∧ p.IsLive stmts := by
  intro file
  have hread : (read file.lines).map (fun p => (p.isFileLevel, p.isInline)) = [(false, false)] := by
    decide +kernel
  have hnone : ({} : Settings).lintText file.path placed = [] := by decide +kernel
  obtain ⟨stmts, htree⟩ : ∃ stmts, file.tree = .ok stmts := by
    have hsome : file.tree.toOption.bind (fun _ => some ()) = some () := by decide +kernel
    obtain ⟨stmts, htree, -⟩ := ok_of_bind_eq_some hsome
    exact ⟨stmts, htree⟩
  obtain ⟨p, hread, hforms⟩ := List.map_eq_singleton_iff.mp hread
  obtain ⟨hfile, hinline⟩ := Prod.mk.inj hforms
  have hp : p ∈ read file.lines := by simp [hread]
  obtain ⟨hlive, -⟩ := live_or_reported file.path placed stmts htree {} p hp hfile
  refine ⟨stmts, p, htree, hp, hfile, hnone, ?_⟩
  have heither := hlive.mpr (by simp [hinline])
  simpa [hnone] using heither

/-- A pragma at the end of a comment, below all statements. -/
def remark : String := "x = 1\n# note # graphpc-lint: ignore[GPC001] because: b\n"

set_option maxRecDepth 100000 in
/-- The pragma counts as inline on a line of no statement, and nothing is reported. -/
theorem remark_silent :
    let file := SourceFile.ofText ⟨.relative, ["a.py"]⟩ remark.toList
    ∃ stmts p, file.tree = .ok stmts ∧ p ∈ read file.lines ∧ p.isFileLevel = false ∧ p.line = 2 ∧
      ({} : Settings).lintText file.path remark = [] ∧ ¬ p.IsLive stmts := by
  intro file
  have hread : file.tree.toOption.bind (fun stmts => some ((read file.lines).map fun p =>
      (p.isFileLevel, p.isInline, p.line, decide (p.Outside stmts)))) =
        some [(false, true, 2, true)] := by
    decide +kernel
  have hnone : ({} : Settings).lintText file.path remark = [] := by decide +kernel
  obtain ⟨stmts, htree, hread⟩ := ok_of_bind_eq_some hread
  obtain ⟨p, hread, hforms⟩ := List.map_eq_singleton_iff.mp (Option.some.inj hread)
  obtain ⟨hfile, hinline, hline, houtside⟩ : p.isFileLevel = false ∧ p.isInline = true ∧
      p.line = 2 ∧ p.Outside stmts := by simpa using hforms
  refine ⟨stmts, p, htree, by simp [hread], hfile, hline, hnone, ?_⟩
  rw [isLive_inline hfile hinline]
  exact not_not_intro houtside

end Pragma
end NodeLint
