import Mathlib.Data.List.Basic
import NodeLint.Proofs.Check
import NodeLint.Proofs.Governance
import NodeLint.Proofs.Run

/-!
# What a severity does

The severity of a rule is copied into its findings, and it decides whether the rule runs at all.
It does nothing else: which pragmas drop a finding, which limits on pragmas are broken, and whether
a file is a program are settled by codes, lines and text. So two settings that rate a rule
differently report the same findings under different labels, and settings that turn it off report
the same without its findings.
-/

namespace NodeLint

open Source

/-- A diagnostic with another severity, if it has the code. -/
def Diagnostic.rated (code : String) (severity : Severity) (d : Diagnostic) : Diagnostic :=
  if d.code = code then { d with severity := severity } else d

namespace Diagnostic

variable {code : String} {severity : Severity} {d : Diagnostic}

theorem rated_of_eq (hcode : d.code = code) :
    d.rated code severity = { d with severity := severity } := if_pos hcode

theorem rated_of_ne (hcode : d.code ≠ code) : d.rated code severity = d := if_neg hcode

/-- Rating a diagnostic changes its severity only. -/
theorem rated_eq (code : String) (severity : Severity) (d : Diagnostic) :
    d.rated code severity = { d with severity := (d.rated code severity).severity } := by
  unfold rated
  split <;> rfl

/-- No pragma tells apart diagnostics that differ in their severity. -/
theorem drops_rated (g : Governance) (file : SourceFile) (code : String) (severity : Severity)
    (d : Diagnostic) : g.Drops file (d.rated code severity) ↔ g.Drops file d := by
  rw [rated_eq]
  rfl

end Diagnostic

/-! ## Findings -/

namespace Rule

/-- The report on a member is labelled with the severity. -/
theorem rated_report (file : SourceFile) (severity severity' : Severity) (className : String)
    (m : Member) :
    (report ⟨file, severity⟩ className m).rated requireDecorator.code severity' =
      report ⟨file, severity'⟩ className m := by
  have hcode : (report ⟨file, severity⟩ className m).code = requireDecorator.code := rfl
  rw [Diagnostic.rated_of_eq hcode, report, report]

/-- The findings of a class carry the severity and hang on it in no other way. -/
theorem checkClass_rated (file : SourceFile) (severity severity' : Severity) (b : Binding)
    (s : Stmt) :
    (checkClass ⟨file, severity⟩ b s).map (Diagnostic.rated requireDecorator.code severity') =
      checkClass ⟨file, severity'⟩ b s := by
  unfold checkClass
  cases s.form with
  | classDef name bases decorators =>
    simp only
    split
    · rw [List.map_map]
      exact List.map_congr_left fun m _ => rated_report file severity severity' _ m
    · rfl
  | _ => rfl

/-- The findings of a file carry the severity and hang on it in no other way. -/
theorem check_rated (file : SourceFile) (severity severity' : Severity) :
    (check severity file).map (Diagnostic.rated requireDecorator.code severity') =
      check severity' file := by
  unfold check
  cases file.tree with
  | error e => rfl
  | ok stmts =>
    simp only
    cases Binding.find? Tracked.standard stmts with
    | none => rfl
    | some b =>
      simp only [visitAll_eq, List.map_flatMap, checkClass_rated]

end Rule

namespace Settings

/-- Two settings that agree on everything but the severity of a code. -/
structure DifferInRating (code : String) (s s' : Settings) : Prop where
  rest : { s with severities := s'.severities } = s'
  others : ∀ other, other ≠ code → s'.severity other = s.severity other

/-- The findings of a file are those of the one rule, if it is on. -/
theorem flatMap_findings (s : Settings) (file : SourceFile) :
    (s.findings file).flatMap Prod.snd =
      if s.isEnabled Rule.requireDecorator.code then
        Rule.check (s.severity Rule.requireDecorator.code) file
      else [] := by
  cases henabled : s.isEnabled Rule.requireDecorator.code with
  | true => simp [findings, Rule.checks, henabled]
  | false => simp [findings, Rule.checks, henabled]

/-- A program is left with its breaches and with the findings that no pragma drops. -/
theorem lintFile_of_tree {file : SourceFile} {stmts : List Stmt} (htree : file.tree = .ok stmts)
    (s : Settings) :
    s.lintFile file = s.governance.breaches file ++
      ((s.findings file).flatMap Prod.snd).filter fun d => ¬ s.governance.Drops file d := by
  simp only [lintFile, htree, Governance.apply_eq]

/-- A breach does not have the code of the rule. -/
theorem code_ne_of_mem_breaches {g : Governance} {file : SourceFile} {stmts : List Stmt}
    (htree : file.tree = .ok stmts) {d : Diagnostic} (hd : d ∈ g.breaches file) :
    d.code ≠ Rule.requireDecorator.code := by
  obtain ⟨b, rfl⟩ := Governance.exists_breach htree hd
  intro hcode
  have hlisted : Rule.requireDecorator.code ∈ Breach.codes := hcode ▸ b.code_mem_codes
  exact absurd hlisted (by decide)

/-- A finding has the code of the rule. -/
theorem code_of_mem_findings {s : Settings} {file : SourceFile} {d : Diagnostic}
    (hd : d ∈ (s.findings file).flatMap Prod.snd) : d.code = Rule.requireDecorator.code := by
  obtain ⟨-, className, m, rfl⟩ := Governance.exists_report_of_findings hd
  rfl

variable {s s' : Settings}

/-- What the rule finds under another severity that counts is the same under another label. -/
theorem flatMap_findings_rated (file : SourceFile)
    (hs : s.severity Rule.requireDecorator.code ≠ .off)
    (hs' : s'.severity Rule.requireDecorator.code ≠ .off) :
    (s'.findings file).flatMap Prod.snd = ((s.findings file).flatMap Prod.snd).map
      (Diagnostic.rated Rule.requireDecorator.code (s'.severity Rule.requireDecorator.code)) := by
  have hon : s.isEnabled Rule.requireDecorator.code = true := decide_eq_true hs
  have hon' : s'.isEnabled Rule.requireDecorator.code = true := decide_eq_true hs'
  rw [flatMap_findings, flatMap_findings, if_pos hon, if_pos hon', Rule.check_rated]

/-- Settings that rate the rule differently report a file under different labels. -/
theorem lintFile_rated (hgovernance : s'.governance = s.governance)
    (hs : s.severity Rule.requireDecorator.code ≠ .off)
    (hs' : s'.severity Rule.requireDecorator.code ≠ .off) (file : SourceFile) :
    s'.lintFile file = (s.lintFile file).map
      (Diagnostic.rated Rule.requireDecorator.code (s'.severity Rule.requireDecorator.code)) := by
  cases htree : file.tree with
  | error e =>
    have hsyntax : (e.diagnostic file.path).code ≠ Rule.requireDecorator.code := by
      change syntaxCode ≠ Rule.requireDecorator.code
      decide
    simp only [lintFile, htree, List.map_cons, List.map_nil, Diagnostic.rated_of_ne hsyntax]
  | ok stmts =>
    have hbreaches : (s.governance.breaches file).map (Diagnostic.rated Rule.requireDecorator.code
        (s'.severity Rule.requireDecorator.code)) = s.governance.breaches file :=
      (List.map_congr_left fun d hd =>
        Diagnostic.rated_of_ne (code_ne_of_mem_breaches htree hd)).trans (List.map_id _)
    rw [lintFile_of_tree htree, lintFile_of_tree htree, hgovernance, List.map_append, hbreaches,
      flatMap_findings_rated file hs hs', List.filter_map]
    congr 3
    funext d
    exact decide_eq_decide.mpr (not_congr (Diagnostic.drops_rated _ _ _ _ _))

/-- Settings that turn the rule off report a file without its findings. -/
theorem lintFile_off (hgovernance : s'.governance = s.governance)
    (hs' : s'.severity Rule.requireDecorator.code = .off) (file : SourceFile) :
    s'.lintFile file =
      (s.lintFile file).filter fun d => d.code ≠ Rule.requireDecorator.code := by
  cases htree : file.tree with
  | error e =>
    have hsyntax : (e.diagnostic file.path).code ≠ Rule.requireDecorator.code := by
      change syntaxCode ≠ Rule.requireDecorator.code
      decide
    simp [lintFile, htree, hsyntax]
  | ok stmts =>
    have hoff : (s'.findings file).flatMap Prod.snd = [] := by
      rw [flatMap_findings, if_neg]
      exact fun hon => of_decide_eq_true hon hs'
    have hbreaches : (s.governance.breaches file).filter
        (fun d => d.code ≠ Rule.requireDecorator.code) = s.governance.breaches file :=
      List.filter_eq_self.mpr fun d hd => decide_eq_true (code_ne_of_mem_breaches htree hd)
    have hfindings : (((s.findings file).flatMap Prod.snd).filter
        fun d => ¬ s.governance.Drops file d).filter
          (fun d => d.code ≠ Rule.requireDecorator.code) = [] := by
      rw [List.filter_eq_nil_iff]
      exact fun d hd hcode => of_decide_eq_true hcode
        (code_of_mem_findings (List.mem_of_mem_filter hd))
    rw [lintFile_of_tree htree, lintFile_of_tree htree, hgovernance, hoff, List.filter_append,
      hbreaches, hfindings]
    rfl

/-- Settings that differ in the severity of the rule only report the same about a text, but for the
label of the findings of the rule; with the rule off, these findings are left out and nothing else
is. -/
theorem lintText_rated (path : Path) (text : String)
    (hdiffer : DifferInRating Rule.requireDecorator.code s s')
    (hs : s.severity Rule.requireDecorator.code ≠ .off) :
    (s'.severity Rule.requireDecorator.code ≠ .off →
      s'.lintText path text = (s.lintText path text).map
        (Diagnostic.rated Rule.requireDecorator.code (s'.severity Rule.requireDecorator.code))) ∧
    (s'.severity Rule.requireDecorator.code = .off →
      s'.lintText path text =
        (s.lintText path text).filter fun d => d.code ≠ Rule.requireDecorator.code) ∧
    (s'.lintText path text).filter (fun d => d.code ≠ Rule.requireDecorator.code) =
      (s.lintText path text).filter fun d => d.code ≠ Rule.requireDecorator.code := by
  have hgovernance : s'.governance = s.governance := (congrArg governance hdiffer.rest).symm
  refine ⟨fun hs' => lintFile_rated hgovernance hs hs' _, fun hs' => lintFile_off hgovernance hs' _,
    ?_⟩
  -- Both sides are what settings under which no rule runs report.
  let silent : Settings := { s with severities := [] }
  have hsame : silent.governance = s.governance := rfl
  have hoff : silent.severity Rule.requireDecorator.code = .off := rfl
  have hsilent : silent.lintText path text =
      (s.lintText path text).filter fun d => d.code ≠ Rule.requireDecorator.code :=
    lintFile_off hsame hoff _
  have hsilent' : silent.lintText path text =
      (s'.lintText path text).filter fun d => d.code ≠ Rule.requireDecorator.code :=
    lintFile_off (hsame.trans hgovernance.symm) hoff _
  exact hsilent'.symm.trans hsilent

/-- A method without a decorator, and a pragma without a reason. -/
def undecorated : String :=
  "from graphpc import Node\nclass A(Node):\n # graphpc-lint: ignore[A]\n def f(): 0\n"

/-- The settings that report findings as warnings. -/
def lenient : Settings := { severities := [(Rule.requireDecorator.code, .warn)] }

set_option maxRecDepth 100000 in
/-- Both are reported as errors by default; as a warning, only the method is labelled anew. -/
theorem lintText_rated_undecorated :
    let path : Path := ⟨.relative, ["a.py"]⟩
    (({} : Settings).lintText path undecorated).map (fun d => (d.code, d.severity)) =
      [("IGN001", .error), ("GPC001", .error)] ∧
    lenient.lintText path undecorated = (({} : Settings).lintText path undecorated).map
      (Diagnostic.rated Rule.requireDecorator.code .warn) := by
  intro path
  have hdiffer : DifferInRating Rule.requireDecorator.code {} lenient := by
    refine ⟨rfl, fun other hother => ?_⟩
    have hne : (other == Rule.requireDecorator.code) = false := beq_eq_false_iff_ne.mpr hother
    simp only [severity, Severities.get, lenient, Preset.severities, List.lookup_cons, hne]
  exact ⟨by decide +kernel, (lintText_rated path undecorated hdiffer (by decide)).1 (by decide)⟩

end Settings
end NodeLint
