import NodeLint.Pragma.Suppression

/-!
# What pragmas suppress

Pragmas are sorted into stores one after the other, and a diagnostic is then looked up in each
store. Here it is said of a single pragma which lines it reaches, and the stores are shown to cover
a diagnostic exactly if some pragma that names its code reaches its line. No other pragma matters
for that, and no order among them. The pragmas that are left over are those above no statement.

Which lines have a statement on them, and where it ends, is taken from the statement ranges.
-/

namespace NodeLint

open Source

namespace Pragma

variable (tree : Option (List Stmt)) (p : Pragma)

/-- A pragma that is neither for the whole file nor for its own line. -/
def IsBlock : Prop := p.isFileLevel = false ∧ p.isInline = false

instance : Decidable p.IsBlock := inferInstanceAs (Decidable (_ ∧ _))

/-- A pragma reaches a line if it is for the whole file, if it stands inline on that very line, or
if it is above a statement that the line belongs to. -/
def Reaches (line : Int) : Prop :=
  p.isFileLevel = true ∨
  (p.isInline = true ∧ line = p.line) ∨
  (p.IsBlock ∧ ∃ stmts ∈ tree, ∃ last ∈ (StatementRanges.ofStmts stmts).lastLine? (p.line + 1),
    (p.line : Int) + 1 ≤ line ∧ line ≤ last)

instance (line : Int) : Decidable (p.Reaches tree line) :=
  inferInstanceAs (Decidable (_ ∨ _ ∨ _))

/-- An inline pragma reaches its own line. -/
theorem reaches_inline {p : Pragma} (hfile : p.isFileLevel = false) (hinline : p.isInline = true)
    (line : Int) : p.Reaches tree line ↔ line = p.line := by
  simp [Reaches, IsBlock, hfile, hinline]

/-- A block pragma reaches the lines of the statement below it. -/
theorem reaches_block {p : Pragma} (hblock : p.IsBlock) (line : Int) :
    p.Reaches tree line ↔
      ∃ stmts ∈ tree, ∃ last ∈ (StatementRanges.ofStmts stmts).lastLine? (p.line + 1),
        (p.line : Int) + 1 ≤ line ∧ line ≤ last := by
  simp [Reaches, hblock, hblock.1, hblock.2]

/-- A pragma dangles if no statement is introduced on the line below it. -/
def Dangles : Prop :=
  p.IsBlock ∧ ∃ stmts ∈ tree, (StatementRanges.ofStmts stmts).lastLine? (p.line + 1) = none

instance : Decidable (p.Dangles tree) := inferInstanceAs (Decidable (_ ∧ _))

end Pragma

/-! ## The stores -/

namespace Suppressions

variable (tree : Option (List Stmt))

/-- One more pragma goes into the store of its form; above no statement it is left over, and in a
file without statements it is dropped. -/
theorem add_cases (ranges : Option StatementRanges) (s : Suppressions) (p : Pragma) :
    (p.isFileLevel = true ∧ s.add ranges p = { s with fileCodes := s.fileCodes ++ p.codes }) ∨
    (p.isFileLevel = false ∧ p.isInline = true ∧
      s.add ranges p = { s with lineCodes := s.lineCodes ++ [(p.line, p.codes)] }) ∨
    (p.IsBlock ∧ ranges = none ∧ s.add ranges p = s) ∨
    (p.IsBlock ∧ ∃ rs, ranges = some rs ∧ rs.lastLine? (p.line + 1) = none ∧
      s.add ranges p = { s with dangling := s.dangling ++ [p] }) ∨
    (p.IsBlock ∧ ∃ rs last, ranges = some rs ∧ rs.lastLine? (p.line + 1) = some last ∧
      s.add ranges p = { s with ranges := s.ranges ++ [(p.line + 1, last, p.codes)] }) := by
  unfold add
  split
  · rename_i hfile
    exact Or.inl ⟨hfile, rfl⟩
  · rename_i hfile
    rw [Bool.not_eq_true] at hfile
    split
    · rename_i hinline
      exact Or.inr (Or.inl ⟨hfile, hinline, rfl⟩)
    · rename_i hinline
      rw [Bool.not_eq_true] at hinline
      have hblock : p.IsBlock := ⟨hfile, hinline⟩
      split
      · exact Or.inr (Or.inr (Or.inl ⟨hblock, rfl, rfl⟩))
      · split
        · rename_i hlast
          exact Or.inr (Or.inr (Or.inr (Or.inl ⟨hblock, _, rfl, hlast, rfl⟩)))
        · rename_i hlast
          exact Or.inr (Or.inr (Or.inr (Or.inr ⟨hblock, _, _, rfl, hlast, rfl⟩)))

/-- A diagnostic is covered if one of the three stores holds its code for its line. -/
theorem covers_iff (s : Suppressions) (d : Diagnostic) :
    s.covers d = true ↔
      d.code ∈ s.fileCodes ∨
      (∃ e ∈ s.lineCodes, (e.1 : Int) = d.location.line ∧ d.code ∈ e.2) ∨
      ∃ r ∈ s.ranges, ((r.1 : Int) ≤ d.location.line ∧ d.location.line ≤ r.2.1) ∧ d.code ∈ r.2.2 := by
  simp [covers, or_assoc]

/-- One more pragma covers the diagnostics with its codes on the lines it reaches. -/
theorem covers_add (s : Suppressions) (p : Pragma) (d : Diagnostic) :
    (s.add (tree.map StatementRanges.ofStmts) p).covers d = true ↔
      s.covers d = true ∨ (d.code ∈ p.codes ∧ p.Reaches tree d.location.line) := by
  rw [covers_iff, covers_iff]
  rcases add_cases (tree.map StatementRanges.ofStmts) s p with
    ⟨hfile, hadd⟩ | ⟨hfile, hinline, hadd⟩ | ⟨hblock, htree, hadd⟩ |
    ⟨hblock, rs, htree, hlast, hadd⟩ | ⟨hblock, rs, last, htree, hlast, hadd⟩ <;> rw [hadd]
  · have hreach : p.Reaches tree d.location.line := Or.inl hfile
    rw [List.mem_append]
    grind
  · rw [Pragma.reaches_inline tree hfile hinline]
    simp only [List.mem_append, List.mem_singleton, or_and_right, exists_or, exists_eq_left]
    grind
  · obtain rfl : tree = none := Option.map_eq_none_iff.mp htree
    simp [Pragma.reaches_block none hblock]
  · obtain ⟨stmts, rfl, rfl⟩ := Option.map_eq_some_iff.mp htree
    simp [Pragma.reaches_block _ hblock, hlast]
  · obtain ⟨stmts, rfl, rfl⟩ := Option.map_eq_some_iff.mp htree
    have hreach : p.Reaches (some stmts) d.location.line ↔
        (p.line : Int) + 1 ≤ d.location.line ∧ d.location.line ≤ last := by
      simp [Pragma.reaches_block _ hblock, hlast]
    rw [hreach]
    simp only [List.mem_append, List.mem_singleton, or_and_right, exists_or, exists_eq_left]
    grind

/-- One more pragma is left over if it dangles. -/
theorem dangling_add (s : Suppressions) (p : Pragma) :
    (s.add (tree.map StatementRanges.ofStmts) p).dangling =
      s.dangling ++ [p].filter fun p => p.Dangles tree := by
  rcases add_cases (tree.map StatementRanges.ofStmts) s p with
    ⟨hfile, hadd⟩ | ⟨hfile, hinline, hadd⟩ | ⟨⟨hfile, hinline⟩, htree, hadd⟩ |
    ⟨⟨hfile, hinline⟩, rs, htree, hlast, hadd⟩ | ⟨⟨hfile, hinline⟩, rs, last, htree, hlast, hadd⟩ <;>
    rw [hadd]
  · simp [Pragma.Dangles, Pragma.IsBlock, hfile]
  · simp [Pragma.Dangles, Pragma.IsBlock, hinline]
  · obtain rfl : tree = none := Option.map_eq_none_iff.mp htree
    simp [Pragma.Dangles]
  · obtain ⟨stmts, rfl, rfl⟩ := Option.map_eq_some_iff.mp htree
    simp [Pragma.Dangles, Pragma.IsBlock, hfile, hinline, hlast]
  · obtain ⟨stmts, rfl, rfl⟩ := Option.map_eq_some_iff.mp htree
    simp [Pragma.Dangles, hlast]

/-- Pragmas cover the diagnostics that one of them names on a line it reaches. -/
theorem covers_ofPragmas (ps : List Pragma) (d : Diagnostic) :
    (ofPragmas tree ps).covers d = true ↔
      ∃ p ∈ ps, d.code ∈ p.codes ∧ p.Reaches tree d.location.line := by
  have hrun (s : Suppressions) :
      (ps.foldl (add (tree.map StatementRanges.ofStmts)) s).covers d = true ↔
        s.covers d = true ∨ ∃ p ∈ ps, d.code ∈ p.codes ∧ p.Reaches tree d.location.line := by
    induction ps generalizing s with
    | nil => simp
    | cons p ps ih =>
      rw [List.foldl_cons, ih, covers_add, or_assoc]
      simp only [List.mem_cons, exists_eq_or_imp]
  have hempty : ({} : Suppressions).covers d = false := rfl
  rw [ofPragmas, hrun, hempty]
  simp

/-- The pragmas that are left over are those that dangle. -/
theorem dangling_ofPragmas (ps : List Pragma) :
    (ofPragmas tree ps).dangling = ps.filter fun p => p.Dangles tree := by
  have hrun (s : Suppressions) :
      (ps.foldl (add (tree.map StatementRanges.ofStmts)) s).dangling =
        s.dangling ++ ps.filter fun p => p.Dangles tree := by
    induction ps generalizing s with
    | nil => simp
    | cons p ps ih =>
      rw [List.foldl_cons, ih, dangling_add, List.append_assoc, ← List.filter_append,
        List.singleton_append]
  exact hrun {}

end Suppressions

/-! ## Applying the pragmas of a file -/

namespace Governance

variable (g : Governance) (file : SourceFile)

/-- The breaches of a file. Without pragmas there is none, whatever the limits are. -/
def breaches : List Diagnostic :=
  match Pragma.read file.lines with
  | [] => []
  | ps => g.violations file ps (ps.filter fun p => p.Dangles file.tree.toOption)

/-- A diagnostic is dropped if its code may be suppressed and some pragma of the file that names the
code reaches its line. -/
def Drops (d : Diagnostic) : Prop :=
  d.code ∉ g.disallow ∧ ∃ p ∈ Pragma.read file.lines,
    d.code ∈ p.codes ∧ p.Reaches file.tree.toOption d.location.line

instance (d : Diagnostic) : Decidable (g.Drops file d) := inferInstanceAs (Decidable (_ ∧ _))

/-- The test that pragmas put a diagnostic to keeps those that are not dropped. -/
theorem keeps_iff (d : Diagnostic) :
    (!g.maySuppress d.code ||
      !(Suppressions.ofPragmas file.tree.toOption (Pragma.read file.lines)).covers d) =
        decide (¬ g.Drops file d) := by
  have hmay : d.code ∉ g.disallow ↔ g.maySuppress d.code = true := by simp [maySuppress]
  rw [Bool.eq_iff_iff, decide_eq_true_iff, Drops, ← Suppressions.covers_ofPragmas, hmay]
  cases g.maySuppress d.code <;> simp

/-- Without pragmas nothing is dropped. -/
theorem not_drops {g : Governance} {file : SourceFile} (hread : Pragma.read file.lines = [])
    (d : Diagnostic) : ¬ g.Drops file d := by
  rintro ⟨-, p, hp, -⟩
  rw [hread] at hp
  exact List.not_mem_nil hp

/-- The breaches of a file come first, and then the diagnostics that are not dropped, in order. -/
theorem apply_eq (ds : List Diagnostic) :
    g.apply file ds = g.breaches file ++ ds.filter fun d => ¬ g.Drops file d := by
  have hkeeps := funext (g.keeps_iff file)
  unfold apply breaches
  cases hread : Pragma.read file.lines with
  | nil =>
    exact (List.filter_eq_self.mpr fun d _ => decide_eq_true (not_drops hread d)).symm
  | cons p ps =>
    rw [hread] at hkeeps
    simp only [hkeeps, Suppressions.dangling_ofPragmas]

/-- A file is left with its breaches, followed by the diagnostics that no pragma drops. If the file
has no pragma, that is what it had before; if it has no statements, pragmas on lines of their own
drop nothing. -/
theorem apply_drops (ds : List Diagnostic) :
    g.apply file ds = g.breaches file ++ ds.filter (fun d => ¬ g.Drops file d) ∧
    (Pragma.read file.lines = [] →
      g.apply file ds = ds ∧ g.breaches file = [] ∧ ∀ d, ¬ g.Drops file d) ∧
    ∀ e, file.tree = .error e → ∀ d, g.Drops file d ↔
      d.code ∉ g.disallow ∧ ∃ p ∈ Pragma.read file.lines, d.code ∈ p.codes ∧
        (p.isFileLevel = true ∨ (p.isInline = true ∧ d.location.line = p.line)) := by
  refine ⟨g.apply_eq file ds, fun hread => ⟨?_, ?_, not_drops hread⟩, fun e htree d => ?_⟩
  · simp only [apply, hread]
  · simp only [breaches, hread]
  · simp [Drops, Pragma.Reaches, htree, Except.toOption]

/-- A text that is no program, with a pragma above its second line. -/
def brokenFile : SourceFile where
  path := ⟨.relative, ["a.py"]⟩
  lines := ["# graphpc-lint: ignore[GPC001] because: b", "f("]
  tree := .error ⟨2, 3, "'(' was never closed", some "f("⟩

/-- A finding on that line. -/
def brokenFinding : Diagnostic where
  file := brokenFile.path
  location := ⟨2, 1, none, none⟩
  code := "GPC001"
  message := ""
  severity := .error

/-- The pragma is read and drops nothing, and a file without pragmas keeps its findings. -/
theorem apply_brokenFile :
    ({} : Governance).apply ⟨brokenFile.path, ["f()"], .ok []⟩ [brokenFinding] = [brokenFinding] ∧
    ({} : Governance).apply brokenFile [brokenFinding] =
      ({} : Governance).breaches brokenFile ++ [brokenFinding] ∧
    (Pragma.read brokenFile.lines).length = 1 ∧
    ¬ ({} : Governance).Drops brokenFile brokenFinding := by
  have hread : Pragma.read ["f()"] = [] := by decide +kernel
  have hkept : ¬ ({} : Governance).Drops brokenFile brokenFinding :=
    mt ((apply_drops {} brokenFile []).2.2 _ rfl brokenFinding).mp (by decide +kernel)
  refine ⟨((apply_drops {} ⟨_, ["f()"], _⟩ _).2.1 hread).1, ?_, by decide +kernel, hkept⟩
  rw [(apply_drops {} brokenFile _).1]
  simp [hkept]

end Governance
end NodeLint
