import NodeLint.Proofs.DeadPragma
import NodeLint.Proofs.Decoration

/-!
# Pragmas above decorated definitions

A pragma on a line of its own is meant for the statement below it. For a decorated definition that
is the line of its keyword, or the line of its first decorator. Right above the keyword it always
governs the definition: it reaches all lines of the definition and is not reported.

A decorator is taken to be where its expression begins, and that may be below its sign: behind an
opening parenthesis, or a backslash, the expression may begin on a later line. A pragma right above
such a sign is above no statement, and is reported.
-/

namespace NodeLint.Pragma

open Source StatementRanges

/-- A pragma governs a definition: it is not reported, it reaches the lines from the one below it to
the last of the definition, on which the definition itself is, and if it names the code of the rule
and may suppress it, nothing is found on these lines. -/
structure Governs (s : Settings) (path : Path) (text : String) (stmts : List Stmt) (d : Stmt)
    (p : Pragma) : Prop where
  unreported : ¬ ∃ x ∈ s.lintText path text, x.code = "IGN004" ∧ x.location.line = p.line
  reaches : ∀ line : Int,
    p.Reaches (some stmts) line ↔ (p.line : Int) + 1 ≤ line ∧ line ≤ d.endLine
  line_le : p.line + 1 ≤ d.line
  le_endLine : d.line ≤ d.endLine
  suppresses : "GPC001" ∈ p.codes → "GPC001" ∉ s.governance.disallow →
    ∀ x ∈ s.lintText path text, x.code = "GPC001" →
      ¬ ((p.line : Int) + 1 ≤ x.location.line ∧ x.location.line ≤ d.endLine)

section
variable {path : Path} {text : String} {stmts : List Stmt} {p : Pragma}

/-- On the lines that a pragma reaches, nothing is left of what it may suppress. -/
theorem not_reaches_of_mem (htree : (SourceFile.ofText path text.toList).tree = .ok stmts)
    {s : Settings} (hp : p ∈ read (SourceFile.ofText path text.toList).lines)
    (hcode : "GPC001" ∈ p.codes) (hallowed : "GPC001" ∉ s.governance.disallow) {x : Diagnostic}
    (hx : x ∈ s.lintText path text) (hxcode : x.code = "GPC001") :
    ¬ p.Reaches (some stmts) x.location.line := by
  intro hreaches
  rw [Settings.lintText, Settings.lintFile_of_tree htree, List.mem_append] at hx
  rcases hx with hx | hx
  · exact Settings.code_ne_of_mem_breaches htree hx hxcode
  · have hkept := of_decide_eq_true (List.mem_filter.mp hx).2
    apply hkept
    rw [Governance.Drops, hxcode, htree]
    exact ⟨hallowed, p, hp, hcode, hreaches⟩

/-- A pragma right above a line on which a definition is introduced alone governs the definition. -/
theorem governs_of_sole (htree : (SourceFile.ofText path text.toList).tree = .ok stmts)
    (s : Settings) (hp : p ∈ read (SourceFile.ofText path text.toList).lines) (hblock : p.IsBlock)
    {d : Stmt} (hl : p.line + 1 ∈ introducing d) (hsole : Sole (p.line + 1) d stmts)
    (hline : p.line + 1 ≤ d.line) (hend : d.line ≤ d.endLine) :
    p.Governs s path text stmts d := by
  have hlast := hsole.lastLine? hl
  have hreaches (line : Int) :
      p.Reaches (some stmts) line ↔ (p.line : Int) + 1 ≤ line ∧ line ≤ d.endLine := by
    simp [reaches_block (some stmts) hblock, hlast]
  refine ⟨?_, hreaches, hline, hend, ?_⟩
  · rw [reported_iff htree s hp]
    simp [Dangles, hlast]
  · intro hcode hallowed x hx hxcode
    rw [← hreaches]
    exact not_reaches_of_mem htree hp hcode hallowed hx hxcode

/-- A pragma right above a line on which nothing is introduced is reported and reaches nothing. -/
theorem reported_of_free (htree : (SourceFile.ofText path text.toList).tree = .ok stmts)
    (s : Settings) (hp : p ∈ read (SourceFile.ofText path text.toList).lines) (hblock : p.IsBlock)
    (hfree : Free (p.line + 1) stmts) :
    (∃ x ∈ s.lintText path text, x.code = "IGN004" ∧ x.location.line = p.line) ∧
      ∀ line, ¬ p.Reaches (some stmts) line := by
  have hnone := (lastLine?_eq_none_iff stmts (p.line + 1)).mpr hfree
  refine ⟨?_, ?_⟩
  · rw [reported_iff htree s hp]
    exact ⟨hblock, stmts, rfl, hnone⟩
  · intro line
    simp [reaches_block (some stmts) hblock, hnone]

end

/-- In a program, each decorated definition has one sign before its first decorator. A pragma on a
line of its own right above the line of the definition's keyword governs the definition. One right
above the line of the sign governs it if the decorator begins on that line; otherwise the pragma is
reported and reaches nothing. -/
theorem governs_decorated (path : Path) (text : String) (stmts : List Stmt)
    (htree : (SourceFile.ofText path text.toList).tree = .ok stmts) (s : Settings) (d : Stmt)
    (hd : d ∈ Stmt.preorderAll stmts) (e : Expr) (he : d.decorators.head? = some e) :
    let tokens := (SourceText.ofSource text.toList).tokens.tokens
    (∃! x, IsSign tokens e.span.line x) ∧
    ∀ p ∈ read (SourceFile.ofText path text.toList).lines, p.IsBlock →
      (p.line + 1 = d.line → p.Governs s path text stmts d) ∧
      ∀ x sign, IsSign tokens e.span.line x → tokens[x]? = some sign →
        p.line + 1 = sign.span.line →
        (sign.span.line = e.span.line → p.Governs s path text stmts d) ∧
        (sign.span.line ≠ e.span.line →
          (∃ x ∈ s.lintText path text, x.code = "IGN004" ∧ x.location.line = p.line) ∧
          ∀ line, ¬ p.Reaches (some stmts) line) := by
  intro tokens
  have hparse := SourceFile.parse_of_tree htree
  have hordered : Ordered tokens.toList := (SourceText.ofSource text.toList).tokens_ordered
  have hapart : Apart tokens.toList := (SourceText.ofSource text.toList).tokens_apart
  have hne : d.decorators ≠ [] := by
    intro hnil
    rw [hnil] at he
    cases he
  obtain ⟨b, c, e', hdecorates, hsole⟩ := parse_decorated hparse hd hne
  obtain rfl : e = e' := Option.some.inj (he.symm.trans hdecorates.head)
  have hunique {x : Nat} (hx : IsSign tokens e.span.line x) : x = b :=
    hx.unique hordered hapart hdecorates.sign
  have hend : d.line ≤ d.endLine := by
    obtain ⟨-, -, hplaced⟩ := parse_covers hparse
    exact hplaced d hd d.line (by simp [hdecorates.introduced])
  refine ⟨⟨b, hdecorates.sign, fun x hx => hunique hx⟩, ?_⟩
  intro p hp hblock
  have hgoverns (hl : p.line + 1 ∈ introducing d) : p.Governs s path text stmts d := by
    have hline : p.line + 1 ≤ d.line := by
      have hle := hdecorates.line_le
      rw [hdecorates.introduced, List.mem_cons, List.mem_singleton] at hl
      omega
    exact governs_of_sole htree s hp hblock hl (hsole _ (hdecorates.stands _ hl)) hline hend
  refine ⟨?_, ?_⟩
  · intro hline
    exact hgoverns (by simp [hdecorates.introduced, hline])
  · intro x sign hx hsign hline
    obtain rfl := hunique hx
    refine ⟨?_, ?_⟩
    · intro hsame
      exact hgoverns (by simp [hdecorates.introduced, hline, hsame])
    · intro hdiffers
      apply reported_of_free htree s hp hblock
      rw [hline]
      exact hdecorates.free hordered hsign hdiffers (hsole _ (hdecorates.stands_sign hsign))

/-- A pragma above a decorator of several lines, and one above the definition. -/
def above : String :=
  "# graphpc-lint: ignore[GPC001] because: a\n@b(\n 1)\n# graphpc-lint: ignore[A]\ndef f(): 0\n"

set_option maxRecDepth 100000 in
/-- Both pragmas govern the definition. -/
theorem governs_above :
    let file := SourceFile.ofText ⟨.relative, ["a.py"]⟩ above.toList
    ∃ stmts d, file.tree = .ok stmts ∧ d ∈ Stmt.preorderAll stmts ∧ d.line = 5 ∧
      (read file.lines).map (·.line) = [1, 4] ∧
      ∀ p ∈ read file.lines, p.Governs {} file.path above stmts d := by
  intro file
  obtain ⟨hfound, hlines, hblocks, hsigns⟩ :
      file.tree.toOption.bind (fun stmts =>
        ((Stmt.preorderAll stmts).find? fun d => !d.decorators.isEmpty).map fun d =>
          (d.line, d.decorators.map fun e => e.span.line)) = some (5, [2]) ∧
      (read file.lines).map (·.line) = [1, 4] ∧ (∀ p ∈ read file.lines, p.IsBlock) ∧
      ∀ k ∈ (SourceText.ofSource above.toList).tokens.tokens.toList,
        k.text = "@" → k.span.line = 2 := by
    decide +kernel
  obtain ⟨stmts, htree, hfound⟩ := ok_of_bind_eq_some hfound
  obtain ⟨d, hd, hfound⟩ := Option.map_eq_some_iff.mp hfound
  obtain ⟨hline, hdecorators⟩ := Prod.mk.inj hfound
  obtain ⟨e, hdecorators, he⟩ := List.map_eq_singleton_iff.mp hdecorators
  have hd := List.mem_of_find?_eq_some hd
  obtain ⟨⟨x, hx, -⟩, hgoverns⟩ := governs_decorated file.path above stmts htree {} d hd e
    (by rw [hdecorators]; rfl)
  obtain ⟨sign, hsign, -, htext⟩ := hx.sign
  have hsignLine := hsigns sign (Array.mem_toList_iff.mpr (Array.mem_of_getElem? hsign)) htext
  refine ⟨stmts, d, htree, hd, hline, hlines, ?_⟩
  intro p hp
  obtain ⟨hkeyword, hdecorator⟩ := hgoverns p hp (hblocks p hp)
  have hline : p.line ∈ [1, 4] := hlines ▸ List.mem_map_of_mem hp
  rw [List.mem_cons, List.mem_singleton] at hline
  rcases hline with hfirst | hsecond
  · exact (hdecorator x sign hx hsign (by omega)).1 (by omega)
  · exact hkeyword (by omega)

/-- A pragma above the sign of a decorator in parentheses, which begins on the next line. -/
def parenthesised : String :=
  "from graphpc import Node\nclass A(Node):\n # graphpc-lint: ignore[GPC001] because: a\n" ++
  " @(\n  b)\n def f(): 0\n"

set_option maxRecDepth 100000 in
/-- The pragma names the code of the rule, and is right above the sign. It is reported, and so is
the definition. -/
theorem reported_parenthesised :
    let file := SourceFile.ofText ⟨.relative, ["a.py"]⟩ parenthesised.toList
    let tokens := (SourceText.ofSource parenthesised.toList).tokens.tokens
    ∃ stmts d e x sign p, file.tree = .ok stmts ∧ d ∈ Stmt.preorderAll stmts ∧
      d.decorators.head? = some e ∧ IsSign tokens e.span.line x ∧ tokens[x]? = some sign ∧
      p ∈ read file.lines ∧ p.IsBlock ∧ p.line + 1 = sign.span.line ∧ "GPC001" ∈ p.codes ∧
      (({} : Settings).lintText file.path parenthesised).map (fun x => (x.code, x.location.line)) =
        [("IGN004", (p.line : Int)), ("GPC001", d.line)] := by
  intro file tokens
  obtain ⟨hfound, hread, hsigns, hlint⟩ :
      file.tree.toOption.bind (fun stmts =>
        ((Stmt.preorderAll stmts).find? fun d => !d.decorators.isEmpty).map (·.line)) = some 6 ∧
      (∃ p ∈ read file.lines, p.IsBlock ∧ p.line = 3 ∧ "GPC001" ∈ p.codes) ∧
      (∀ k ∈ tokens.toList, k.text = "@" → k.span.line = 4) ∧
      (({} : Settings).lintText file.path parenthesised).map (fun x => (x.code, x.location.line)) =
        [("IGN004", 3), ("GPC001", 6)] := by
    decide +kernel
  obtain ⟨stmts, htree, hfound⟩ := ok_of_bind_eq_some hfound
  obtain ⟨d, hd, hline⟩ := Option.map_eq_some_iff.mp hfound
  have hdecorators : d.decorators ≠ [] := by simpa using List.find?_some hd
  have hd := List.mem_of_find?_eq_some hd
  obtain ⟨x, c, e, hdecorates, -⟩ :=
    parse_decorated (SourceFile.parse_of_tree htree) hd hdecorators
  obtain ⟨sign, hsign, -, htext⟩ := hdecorates.sign.sign
  have hsignLine := hsigns sign (Array.mem_toList_iff.mpr (Array.mem_of_getElem? hsign)) htext
  obtain ⟨p, hp, hblock, hpline, hcode⟩ := hread
  refine ⟨stmts, d, e, x, sign, p, htree, hd, hdecorates.head, hdecorates.sign, hsign, hp, hblock,
    by omega, hcode, ?_⟩
  rw [hlint, hpline, hline]
  rfl

end NodeLint.Pragma
