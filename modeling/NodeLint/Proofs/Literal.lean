import Mathlib.Data.List.Basic
import NodeLint.Run
import NodeLint.Proofs.Lines
import NodeLint.Proofs.Pragma
import NodeLint.Proofs.Suppression

/-!
# Pragmas inside string literals

A line strictly between the first and the last line of a string literal is text of the literal from
end to end. Pragmas are read from lines, whatever the lines are part of, so that such a line counts
like any other: it is without influence exactly if it does not read as a pragma. A pragma that is
quoted in a literal is therefore obeyed, and one for the whole file switches the rule off.

Blanking a line leaves the statements as they are, and so tells what the line does as a pragma.
-/

namespace NodeLint

open Source

/-! ## Lines of a literal -/

/-- A line strictly inside a string is a line of the text, and a piece of the string. -/
theorem Source.Token.Placed.getElem?_pieces {t : SourceText} {k : Token} (h : k.Placed t)
    (hstring : k.kind = .string) {i : Nat} (hfirst : k.span.line < i) (hlast : i < k.span.endLine) :
    0 < k.span.line ∧ i - 1 < lineBreaks t.chars ∧ i - k.span.line < k.text.toList.count '\n' ∧
    (Text.pieces '\n' t.chars)[i - 1]? = (Text.pieces '\n' k.text.toList)[i - k.span.line]? := by
  obtain ⟨first, last, hin, hin', hline, hend, htext⟩ := h
  have hrest := htext hstring
  obtain ⟨before, hbefore⟩ := hin.suffix
  have hne : first.rest ≠ [] := by
    intro hnil
    have hline := hin.line
    have hend := hin'.line
    rw [hnil] at hline
    have hzero : lineBreaks [] = 0 := rfl
    omega
  have hstart := hin.line_eq hbefore.symm hne
  have hlines := hin'.line
  have hwithin : last.line ≤ first.line + k.text.toList.count '\n' := by
    have hboth := hin.line
    rw [← hlines, hrest] at hboth
    cases hbehind : last.rest with
    | nil =>
      rw [hbehind, List.append_nil] at hboth
      have hle := lineBreaks_le k.text.toList
      omega
    | cons c cs =>
      rw [lineBreaks_append _ (hbehind ▸ List.cons_ne_nil c cs)] at hboth
      omega
  refine ⟨by omega, by omega, by omega, ?_⟩
  have hindex : i - 1 = before.count '\n' + (i - k.span.line) := by omega
  rw [hindex, ← hbefore, Text.getElem?_pieces_append_right '\n' _ _ (by omega), hrest,
    Text.getElem?_pieces_append_left '\n' _ _ (by omega)]

/-- A line of a file strictly inside a string of its text is a piece of that string. -/
theorem SourceFile.exists_lineAt_of_string (path : Path) (text : List Char) {k : Token}
    (hk : k ∈ (SourceText.ofSource text).tokens.tokens) (hstring : k.kind = .string) {i : Nat}
    (hfirst : k.span.line < i) (hlast : i < k.span.endLine) :
    ∃ line, (ofText path text).lineAt i = some line ∧
      (Text.pieces '\n' k.text.toList)[i - k.span.line]? = some line.toList := by
  have hplaced := (SourceText.ofSource text).tokens_placed k hk
  obtain ⟨hpos, hbreaks, hcount, hpieces⟩ := hplaced.getElem?_pieces hstring hfirst hlast
  obtain ⟨piece, hpiece⟩ : ∃ p, (Text.pieces '\n' k.text.toList)[i - k.span.line]? = some p := by
    refine ⟨_, List.getElem?_eq_getElem ?_⟩
    rw [Text.length_pieces]
    omega
  have hline : (Text.lines text)[i - 1]? = some piece := by
    rw [getElem?_lines text hbreaks, ← hpiece]
    exact hpieces
  refine ⟨String.ofList piece, ?_, by rw [hpiece, String.toList_ofList]⟩
  rw [lineAt, lineIn_of_pos _ (by omega)]
  simp [ofText, hline]

/-! ## Blanking a line -/

/-- The file with one line emptied and the same statements. -/
def SourceFile.blank (f : SourceFile) (i : Nat) : SourceFile :=
  { f with lines := f.lines.set (i - 1) "" }

/-- Blanking a line changes no other. -/
theorem SourceFile.lineAt_blank (f : SourceFile) {i j : Nat} (hi : 0 < i) (hj : 0 < j)
    (hij : i ≠ j) : (f.blank i).lineAt j = f.lineAt j := by
  rw [lineAt, lineIn_of_pos _ hj, lineAt, lineIn_of_pos _ hj, blank]
  exact List.getElem?_set_ne (by omega)

/-- An empty line is no pragma. -/
theorem Pragma.ofLine?_empty (i : Nat) : ofLine? i "" = none := rfl

/-- The pragmas of a file are those before a line, that of the line, and those behind it; without
the second they are those of the file with the line blanked. -/
theorem Pragma.read_blank {f : SourceFile} {i : Nat} {line : String} (hi : 0 < i)
    (hline : f.lineAt i = some line) :
    ∃ before behind, read f.lines = before ++ (ofLine? i line).toList ++ behind ∧
      read (f.blank i).lines = before ++ behind := by
  rw [SourceFile.lineAt, SourceFile.lineIn_of_pos _ hi] at hline
  obtain ⟨hlength, hget⟩ := List.getElem?_eq_some_iff.mp hline
  have hread (new : String) : read (f.lines.set (i - 1) new) =
      readFrom 1 (f.lines.take (i - 1)) ++ (ofLine? i new).toList ++
        readFrom (i + 1) (f.lines.drop i) := by
    have hstart : 1 + min (i - 1) f.lines.length = i := by omega
    have hnext : i - 1 + 1 = i := by omega
    rw [read, List.set_eq_take_append_cons_drop, if_pos hlength, readFrom_append, List.length_take,
      hstart, readFrom, hnext, List.append_assoc]
  refine ⟨readFrom 1 (f.lines.take (i - 1)), readFrom (i + 1) (f.lines.drop i), ?_, ?_⟩
  · rw [← hread line, ← hget, List.set_getElem_self]
  · rw [SourceFile.blank, hread "", ofLine?_empty, Option.toList_none, List.append_nil]

namespace Governance

/-- A breach shows nothing of a file but its path and one line. -/
theorem violation_congr {f f' : SourceFile} (hpath : f.path = f'.path) {line : Nat}
    (hline : f.lineAt line = f'.lineAt line) (code message : String) :
    violation f line code message = violation f' line code message := by
  rw [violation, violation, hpath, hline]

/-- Breaches show nothing of a file but its path, its first line and the lines of its pragmas. -/
theorem violations_congr (g : Governance) {f f' : SourceFile} (hpath : f.path = f'.path)
    (hfirst : f.lineAt (1 : Nat) = f'.lineAt (1 : Nat)) {ps dangling : List Pragma}
    (hps : ∀ p ∈ ps, f.lineAt p.line = f'.lineAt p.line) (hdangling : ∀ p ∈ dangling, p ∈ ps) :
    g.violations f ps dangling = g.violations f' ps dangling := by
  have hreasons : g.missingReasons f ps = g.missingReasons f' ps := by
    unfold missingReasons
    congr 1
    exact List.map_congr_left fun p hp =>
      violation_congr hpath (hps p (List.mem_of_mem_filter hp)) _ _
  have hcodes : g.disallowedCodes f ps = g.disallowedCodes f' ps :=
    List.flatMap_congr fun p hp =>
      List.map_congr_left fun code _ => violation_congr hpath (hps p hp) _ _
  have hmany : g.tooMany f ps = g.tooMany f' ps := by
    unfold tooMany
    congr 1
    funext limit
    rw [violation_congr hpath hfirst]
  have hdead : deadPragmas f dangling = deadPragmas f' dangling :=
    List.map_congr_left fun p hp => violation_congr hpath (hps p (hdangling p hp)) _ _
  rw [violations, violations, hreasons, hcodes, hmany, hdead]

/-- A line that is no pragma can be blanked without any effect. -/
theorem apply_blank (g : Governance) {f : SourceFile} {i : Nat} {line : String} (hi : 1 < i)
    (hline : f.lineAt i = some line) (hpragma : Pragma.ofLine? i line = none)
    (ds : List Diagnostic) : g.apply f ds = g.apply (f.blank i) ds := by
  obtain ⟨before, behind, hread, hblank⟩ := Pragma.read_blank (by omega) hline
  rw [hpragma, Option.toList_none, List.append_nil, ← hblank] at hread
  have hpath : f.path = (f.blank i).path := rfl
  have hfirst : f.lineAt (1 : Nat) = (f.blank i).lineAt (1 : Nat) :=
    (f.lineAt_blank (by omega) (by omega) (by omega)).symm
  have hlines : ∀ p ∈ Pragma.read f.lines, f.lineAt p.line = (f.blank i).lineAt p.line := by
    intro p hp
    obtain ⟨hpos, text, htext, hp⟩ := Pragma.exists_line hp
    refine (f.lineAt_blank (by omega) hpos ?_).symm
    rintro rfl
    obtain rfl : line = text := Option.some.inj (hline.symm.trans htext)
    rw [hpragma] at hp
    cases hp
  have hbreaches : g.breaches f = g.breaches (f.blank i) := by
    unfold breaches
    rw [← hread]
    cases hps : Pragma.read f.lines with
    | nil => rfl
    | cons p ps =>
      rw [hps] at hlines
      exact g.violations_congr hpath hfirst hlines fun p hp => List.mem_of_mem_filter hp
  have hdrops (d : Diagnostic) : g.Drops f d ↔ g.Drops (f.blank i) d := by
    rw [Drops, Drops, ← hread]
    rfl
  rw [apply_eq, apply_eq, hbreaches]
  simp only [hdrops]

/-- There is a breach for the number of pragmas exactly if it exceeds the limit. -/
theorem exists_tooMany_iff (g : Governance) (f : SourceFile) :
    (∃ d ∈ g.breaches f, d.code = "IGN003") ↔
      Pragma.read f.lines ≠ [] ∧ ∃ limit ∈ g.maxPerFile, limit < (Pragma.read f.lines).length := by
  unfold breaches
  cases Pragma.read f.lines with
  | nil => simp
  | cons p ps =>
    have hreasons : ¬ ∃ d ∈ g.missingReasons f (p :: ps), d.code = "IGN003" := by
      unfold missingReasons
      split <;> simp [violation]
    have hcodes : ¬ ∃ d ∈ g.disallowedCodes f (p :: ps), d.code = "IGN003" := by
      rintro ⟨d, hd, hcode⟩
      obtain ⟨q, -, hd⟩ := List.mem_flatMap.mp hd
      obtain ⟨code, -, rfl⟩ := List.mem_map.mp hd
      simp [violation] at hcode
    have hdead (dangling : List Pragma) : ¬ ∃ d ∈ deadPragmas f dangling, d.code = "IGN003" := by
      simp [deadPragmas, violation]
    have hmany : (∃ d ∈ g.tooMany f (p :: ps), d.code = "IGN003") ↔
        ∃ limit ∈ g.maxPerFile, limit < ((p :: ps).length : Int) := by
      unfold tooMany
      cases g.maxPerFile with
      | none => simp
      | some limit => simp [violation]
    simp only [violations, List.mem_append, or_and_right, exists_or, hreasons, hcodes, hdead, hmany,
      false_or, or_false]
    simp

/-- A line that is a pragma counts: with the right limit, blanking it removes a breach. -/
theorem exists_apply_ne_blank {f : SourceFile} {i : Nat} {line : String} (hi : 0 < i)
    (hline : f.lineAt i = some line) {p : Pragma} (hpragma : Pragma.ofLine? i line = some p) :
    ∃ g : Governance, g.apply f [] ≠ g.apply (f.blank i) [] := by
  obtain ⟨before, behind, hread, hblank⟩ := Pragma.read_blank hi hline
  have hcount : (Pragma.read f.lines).length = (Pragma.read (f.blank i).lines).length + 1 := by
    rw [hread, hblank, hpragma]
    simp
    omega
  refine ⟨{ maxPerFile := some (Pragma.read (f.blank i).lines).length }, fun heq => ?_⟩
  rw [apply_eq, apply_eq, List.filter_nil, List.append_nil, List.filter_nil, List.append_nil] at heq
  have hfull := exists_tooMany_iff { maxPerFile := some (Pragma.read (f.blank i).lines).length } f
  rw [heq, exists_tooMany_iff] at hfull
  obtain ⟨-, limit, hlimit, hlt⟩ := hfull.mpr ⟨by intro hnil; simp [hnil] at hcount, _, rfl, by omega⟩
  cases hlimit
  omega

/-- A line strictly inside a string literal is text of the literal. It has no influence on what is
suppressed or reported exactly if it does not read as a pragma. -/
theorem string_line_influence (path : Path) (text : String) (k : Token)
    (hk : k ∈ (SourceText.ofSource text.toList).tokens.tokens) (hstring : k.kind = .string)
    (i : Nat) (hfirst : k.span.line < i) (hlast : i < k.span.endLine) :
    let file := SourceFile.ofText path text.toList
    ∃ line, file.lineAt i = some line ∧
      (Text.pieces '\n' k.text.toList)[i - k.span.line]? = some line.toList ∧
      ((∀ (g : Governance) ds, g.apply file ds = g.apply (file.blank i) ds) ↔
        Pragma.ofLine? i line = none) := by
  intro file
  obtain ⟨line, hline, hpiece⟩ :=
    SourceFile.exists_lineAt_of_string path text.toList hk hstring hfirst hlast
  obtain ⟨hstart, -⟩ :=
    ((SourceText.ofSource text.toList).tokens_placed k hk).getElem?_pieces hstring hfirst hlast
  have hi : 1 < i := Nat.lt_of_le_of_lt hstart hfirst
  refine ⟨line, hline, hpiece, fun hsame => ?_, fun hpragma g ds => ?_⟩
  · cases hpragma : Pragma.ofLine? i line with
    | none => rfl
    | some p =>
      obtain ⟨g, hg⟩ := exists_apply_ne_blank (Nat.zero_lt_of_lt hi) hline hpragma
      exact absurd (hsame g []) hg
  · exact g.apply_blank hi hline hpragma ds

/-- A literal with one inner line. -/
def quotedNote : String := "'''\na\n'''\n"

set_option maxRecDepth 100000 in
/-- The inner line is no pragma and has no influence. -/
theorem quotedNote_without_influence :
    let file := SourceFile.ofText ⟨.relative, ["a.py"]⟩ quotedNote.toList
    ∃ k ∈ (SourceText.ofSource quotedNote.toList).tokens.tokens,
      k.kind = .string ∧ k.span.line < 2 ∧ 2 < k.span.endLine ∧
      ∀ (g : Governance) ds, g.apply file ds = g.apply (file.blank 2) ds := by
  intro file
  have htoken : ∃ k ∈ (SourceText.ofSource quotedNote.toList).tokens.tokens.toList,
      k.kind = .string ∧ k.span.line < 2 ∧ 2 < k.span.endLine := by decide +kernel
  obtain ⟨k, hk, hstring, hfirst, hlast⟩ := htoken
  have hk := Array.mem_toList_iff.mp hk
  obtain ⟨line, hline, -, hsame⟩ :=
    string_line_influence ⟨.relative, ["a.py"]⟩ quotedNote k hk hstring 2 hfirst hlast
  have hnote : file.lineAt (2 : Nat) = some "a" := by decide +kernel
  obtain rfl : line = "a" := Option.some.inj (hline.symm.trans hnote)
  exact ⟨k, hk, hstring, hfirst, hlast, hsame.mpr (by decide +kernel)⟩

/-- A program whose literal quotes a pragma for the whole file. -/
def quotedPragma : String :=
  "from graphpc import Node\n'''\n# graphpc-lint: ignore-file[GPC001] because: a\n'''\n" ++
    "class A(Node):\n def f(): 0\n"

set_option maxRecDepth 100000 in
/-- The quoted pragma is obeyed: it drops the finding of the program, and with its line blanked the
finding stays. -/
theorem quotedPragma_obeyed :
    let file := SourceFile.ofText ⟨.relative, ["a.py"]⟩ quotedPragma.toList
    let found := Rule.check .error file
    file.tree.toOption.isSome = true ∧
    (∃ k ∈ (SourceText.ofSource quotedPragma.toList).tokens.tokens.toList, k.kind = .string ∧
      Text.startsWith k.text "'''" = true ∧ k.span.line < 3 ∧ 3 < k.span.endLine) ∧
    ({} : Governance).apply file found = [] ∧
    ({} : Governance).apply (file.blank 3) found = found ∧ found ≠ [] := by
  decide +kernel

end Governance

end NodeLint
