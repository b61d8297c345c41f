import Mathlib.Data.List.Basic
import NodeLint.Proofs.Check
import NodeLint.Proofs.Pragma
import NodeLint.Proofs.StatementRange
import NodeLint.Proofs.Suppression

/-!
# Breaches of the limits on pragmas

Which breaches a file has is read off its pragmas and its statements alone: what a rule finds plays
no part, and neither does what the pragmas suppress. Each breach is an error on a line of the file.
Breaches are put in front of what the pragmas leave, so that no pragma removes one, whatever codes
it names.
-/

namespace NodeLint

open Source

/-- A breach of the limits on pragmas. -/
inductive Breach where
  | noReason (p : Pragma)
  | forbidden (p : Pragma) (code : String)
  | tooMany (count : Nat) (limit : Int)
  | dead (p : Pragma)

namespace Breach

/-- The codes of breaches. -/
def codes : List String := ["IGN001", "IGN002", "IGN003", "IGN004"]

/-- The code of a breach. -/
def code : Breach → String
  | .noReason _ => "IGN001"
  | .forbidden _ _ => "IGN002"
  | .tooMany _ _ => "IGN003"
  | .dead _ => "IGN004"

/-- The line a breach is reported on: that of its pragma, or the first of the file. -/
def line : Breach → Nat
  | .noReason p => p.line
  | .forbidden p _ => p.line
  | .tooMany _ _ => 1
  | .dead p => p.line

/-- What is said about a breach. -/
def message : Breach → String
  | .noReason _ => "Ignore pragma requires a reason (use 'because: ...')"
  | .forbidden _ code => "Rule '" ++ code ++ "' cannot be ignored (disallowed by configuration)"
  | .tooMany count limit => "File has " ++ toString count ++
      " ignore directives, maximum allowed is " ++ toString limit
  | .dead _ => "Ignore pragma is not directly above a statement and suppresses nothing"

/-- A breach has one of the codes. -/
theorem code_mem_codes (b : Breach) : b.code ∈ codes := by
  cases b <;> simp [code, codes]

/-- The diagnostic for a breach. -/
def diagnostic (file : SourceFile) (b : Breach) : Diagnostic where
  file := file.path
  location := ⟨b.line, 1, none, none⟩
  code := b.code
  message := b.message
  severity := .error
  sourceLine := file.lineAt b.line

/-- The breaches of a file with these statements and pragmas: pragmas without a reason, where one
is required; codes of a pragma that may not be suppressed, in order; too many pragmas; and pragmas
on lines of their own with no statement introduced on the line below. -/
def listed (g : Governance) (stmts : List Stmt) (ps : List Pragma) : List Breach :=
  (ps.filter fun p => g.requireReason ∧ p.reason = none).map .noReason ++
  (ps.flatMap fun p => (Text.sortedSet (g.disallow.filter (· ∈ p.codes))).map (.forbidden p)) ++
  (g.maxPerFile.toList.filter fun limit => limit < (ps.length : Int)).map (.tooMany ps.length) ++
  (ps.filter fun p => p.IsBlock ∧
    ∀ s ∈ Stmt.preorderAll stmts, p.line + 1 ∉ StatementRanges.introducing s).map .dead

/-- A listed breach is reported on the first line or on that of a pragma. -/
theorem line_of_mem_listed {g : Governance} {stmts : List Stmt} {ps : List Pragma} {b : Breach}
    (hb : b ∈ listed g stmts ps) : b.line = 1 ∨ ∃ p ∈ ps, b.line = p.line := by
  simp only [listed, List.mem_append, List.mem_map, List.mem_flatMap, List.mem_filter] at hb
  rcases hb with ((⟨p, ⟨hp, -⟩, rfl⟩ | ⟨p, hp, c, -, rfl⟩) | ⟨limit, -, rfl⟩) | ⟨p, ⟨hp, -⟩, rfl⟩
  · exact Or.inr ⟨p, hp, rfl⟩
  · exact Or.inr ⟨p, hp, rfl⟩
  · exact Or.inl rfl
  · exact Or.inr ⟨p, hp, rfl⟩

end Breach

namespace Governance

variable (g : Governance) (file : SourceFile)

/-- Reasons are missing where they are required. -/
theorem missingReasons_eq (ps : List Pragma) :
    g.missingReasons file ps =
      ((ps.filter fun p => g.requireReason ∧ p.reason = none).map .noReason).map
        (Breach.diagnostic file) := by
  rw [missingReasons, List.map_map]
  cases g.requireReason with
  | true =>
    simp only [if_true, true_and]
    rfl
  | false => simp

/-- The codes of a pragma that may not be suppressed, as a sorted set. -/
theorem filter_disallow_eq {p : Pragma} (hcodes : p.codes.Pairwise (· < ·)) :
    p.codes.filter g.disallow.contains = Text.sortedSet (g.disallow.filter (· ∈ p.codes)) := by
  refine Sorted.eq_of_mem_iff (fun _ _ => String.lt_asymm) (hcodes.filter _)
    (Text.pairwise_sortedSet _) fun c => ?_
  rw [Text.mem_sortedSet]
  simp [and_comm]

/-- Codes are reported where they may not be suppressed. -/
theorem disallowedCodes_eq {ps : List Pragma} (hcodes : ∀ p ∈ ps, p.codes.Pairwise (· < ·)) :
    g.disallowedCodes file ps =
      (ps.flatMap fun p => (Text.sortedSet (g.disallow.filter (· ∈ p.codes))).map
        (Breach.forbidden p)).map (Breach.diagnostic file) := by
  rw [disallowedCodes, List.map_flatMap]
  refine List.flatMap_congr fun p hp => ?_
  rw [filter_disallow_eq g (hcodes p hp), List.map_map]
  rfl

/-- There is one breach for all pragmas beyond the limit. -/
theorem tooMany_eq (ps : List Pragma) :
    g.tooMany file ps =
      ((g.maxPerFile.toList.filter fun limit => limit < (ps.length : Int)).map
        (Breach.tooMany ps.length)).map (Breach.diagnostic file) := by
  rw [tooMany]
  cases g.maxPerFile with
  | none => rfl
  | some limit =>
    by_cases hlimit : limit < (ps.length : Int)
    · simp [hlimit]
      rfl
    · simp [hlimit]

/-- A pragma dangles if no statement of the file is introduced on the line below. -/
theorem dangles_iff (stmts : List Stmt) (p : Pragma) :
    p.Dangles (some stmts) ↔
      p.IsBlock ∧ ∀ s ∈ Stmt.preorderAll stmts, p.line + 1 ∉ StatementRanges.introducing s := by
  simp [Pragma.Dangles, StatementRanges.lastLine?_eq_none_iff]

/-- The breaches of a file with statements and pragmas are those listed. -/
theorem breaches_eq {file : SourceFile} {stmts : List Stmt} (htree : file.tree = .ok stmts)
    (hpragmas : Pragma.read file.lines ≠ []) :
    g.breaches file =
      (Breach.listed g stmts (Pragma.read file.lines)).map (Breach.diagnostic file) := by
  have hcodes : ∀ p ∈ Pragma.read file.lines, p.codes.Pairwise (· < ·) := by
    intro p hp
    obtain ⟨-, text, -, hline⟩ := Pragma.exists_line hp
    exact Pragma.pairwise_codes_of_ofLine? hline
  have hbreaches : g.breaches file = g.violations file (Pragma.read file.lines)
      ((Pragma.read file.lines).filter fun p => p.Dangles (some stmts)) := by
    rw [breaches]
    split
    · exact absurd ‹_› hpragmas
    · simp only [htree, Except.toOption]
  rw [hbreaches, violations, missingReasons_eq, disallowedCodes_eq g file hcodes, tooMany_eq,
    deadPragmas]
  simp only [Breach.listed, List.map_append, List.map_map, dangles_iff]
  rfl

/-- A listed breach is reported on a line of the file. -/
theorem exists_line_of_listed {g : Governance} {stmts : List Stmt} {lines : List String}
    (hpragmas : Pragma.read lines ≠ []) {b : Breach}
    (hb : b ∈ Breach.listed g stmts (Pragma.read lines)) :
    ∃ text, SourceFile.lineIn lines b.line = some text := by
  rcases Breach.line_of_mem_listed hb with hline | ⟨p, hp, hline⟩
  · rw [hline]
    cases lines with
    | nil => exact absurd rfl hpragmas
    | cons text lines => exact ⟨text, rfl⟩
  · obtain ⟨-, text, htext, -⟩ := Pragma.exists_line hp
    exact ⟨text, hline ▸ htext⟩

/-- The findings of rules are reports of a rule that is on. -/
theorem exists_report_of_findings {s : Settings} {file : SourceFile} {d : Diagnostic}
    (hd : d ∈ (s.findings file).flatMap Prod.snd) :
    s.isEnabled Rule.requireDecorator.code = true ∧ ∃ className m,
      d = Rule.report ⟨file, s.severity Rule.requireDecorator.code⟩ className m := by
  obtain ⟨⟨r, found⟩, hfound, hd⟩ := List.mem_flatMap.mp hd
  obtain ⟨⟨r', check⟩, hcheck, heq⟩ := List.mem_map.mp hfound
  obtain ⟨hrule, henabled⟩ := List.mem_filter.mp hcheck
  obtain ⟨rfl, rfl⟩ := Prod.mk.inj (List.mem_singleton.mp hrule)
  obtain ⟨rfl, rfl⟩ := Prod.mk.inj heq
  exact ⟨henabled, Rule.exists_report hd⟩

/-- The findings of rules have no code of a breach. -/
theorem code_of_findings {s : Settings} {file : SourceFile} {d : Diagnostic}
    (hd : d ∈ (s.findings file).flatMap Prod.snd) : d.code ∉ Breach.codes := by
  obtain ⟨-, className, m, rfl⟩ := exists_report_of_findings hd
  exact (by decide : Rule.requireDecorator.code ∉ Breach.codes)

/-- A file with statements and pragmas has exactly the listed breaches, whatever else was found in
it, and in front of what is left of that. Each breach is an error and shows the line it is on. What
a run reports about the file has these breaches and no others: no pragma removes one. -/
theorem breaches_reported (path : Path) (text : String) (stmts : List Stmt) (g : Governance)
    (htree : (SourceFile.ofText path text.toList).tree = .ok stmts)
    (hpragmas : Pragma.read (SourceFile.ofText path text.toList).lines ≠ []) :
    let file := SourceFile.ofText path text.toList
    let listed := (Breach.listed g stmts (Pragma.read file.lines)).map (Breach.diagnostic file)
    (∀ ds, g.apply file ds = listed ++ ds.filter fun d => ¬ g.Drops file d) ∧
    (∀ d ∈ listed, d.code ∈ Breach.codes ∧ d.severity = .error ∧
      ∃ line, d.sourceLine = some line ∧ file.lineAt d.location.line = some line) ∧
    ∀ s : Settings, s.governance = g →
      (s.lintText path text).filter (fun d => d.code ∈ Breach.codes) = listed := by
  intro file listed
  have happly (ds : List Diagnostic) :
      g.apply file ds = listed ++ ds.filter fun d => ¬ g.Drops file d := by
    rw [g.apply_eq file ds, breaches_eq g htree hpragmas]
  have hlisted : ∀ d ∈ listed, d.code ∈ Breach.codes := by
    intro d hd
    obtain ⟨b, -, rfl⟩ := List.mem_map.mp hd
    exact b.code_mem_codes
  refine ⟨happly, fun d hd => ⟨hlisted d hd, ?_⟩, fun s hs => ?_⟩
  · obtain ⟨b, hb, rfl⟩ := List.mem_map.mp hd
    obtain ⟨line, hline⟩ := exists_line_of_listed hpragmas hb
    exact ⟨rfl, line, hline, hline⟩
  · have hlint : s.lintText path text = g.apply file ((s.findings file).flatMap Prod.snd) := by
      rw [Settings.lintText, Settings.lintFile, htree, hs]
    have hrest : (((s.findings file).flatMap Prod.snd).filter fun d => ¬ g.Drops file d).filter
        (fun d => d.code ∈ Breach.codes) = [] := by
      rw [List.filter_eq_nil_iff]
      intro d hd hcode
      exact code_of_findings (List.mem_of_mem_filter hd) (of_decide_eq_true hcode)
    rw [hlint, happly, List.filter_append, hrest, List.append_nil]
    exact List.filter_eq_self.mpr fun d hd => decide_eq_true (hlisted d hd)

/-- Two pragmas that name the codes of breaches, their own among them. -/
def selfNaming : String :=
  "# graphpc-lint: ignore-file[IGN001]\n# graphpc-lint: ignore[IGN004] because: a\n"

/-- Limits that both pragmas exceed. -/
def strict : Governance where
  disallow := ["IGN001"]
  maxPerFile := some 1

set_option maxRecDepth 100000 in
/-- The pragmas remove none of their breaches. -/
theorem breaches_selfNaming :
    let file := SourceFile.ofText ⟨.relative, ["a.py"]⟩ selfNaming.toList
    ∃ stmts, file.tree = .ok stmts ∧ Pragma.read file.lines ≠ [] ∧
      (({ governance := strict } : Settings).lintText file.path selfNaming).filter
          (fun d => d.code ∈ Breach.codes) =
        (Breach.listed strict stmts (Pragma.read file.lines)).map (Breach.diagnostic file) ∧
      (Breach.listed strict stmts (Pragma.read file.lines)).map Breach.code =
        ["IGN001", "IGN002", "IGN003", "IGN004"] := by
  intro file
  have hlisted : file.tree.toOption.bind (fun stmts =>
      some ((Breach.listed strict stmts (Pragma.read file.lines)).map Breach.code)) =
        some ["IGN001", "IGN002", "IGN003", "IGN004"] := by decide +kernel
  have hpragmas : Pragma.read file.lines ≠ [] := by decide +kernel
  obtain ⟨stmts, htree, hcodes⟩ := ok_of_bind_eq_some hlisted
  refine ⟨stmts, htree, hpragmas, ?_, Option.some.inj hcodes⟩
  exact (breaches_reported file.path selfNaming stmts strict htree hpragmas).2.2 _ rfl

end Governance
end NodeLint
