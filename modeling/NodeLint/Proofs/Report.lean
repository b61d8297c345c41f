import NodeLint.Proofs.CommandLine.Lint
import NodeLint.Proofs.Json.Rendering

/-!
# Reports in JSON

A report in JSON means the list of its diagnostics, whatever characters these hold, and it is
written as it is: it holds no escape character, so there is no control sequence to strip, and no
summary follows it.
-/

namespace NodeLint

/-! ## Stripping -/

namespace Text

/-- A text without escape characters has no control sequences. -/
theorem stripFrom_eq_self {cs : List Char} (h : escape ∉ cs) : stripFrom cs.length cs = cs := by
  induction cs with
  | nil => rfl
  | cons c cs ih =>
    obtain ⟨hc, hcs⟩ := not_or.mp (List.mem_cons.not.mp h)
    rw [List.length_cons, stripFrom, if_neg (Ne.symm hc), ih hcs]

theorem stripAnsi_eq_self {s : String} (h : escape ∉ s.toList) : stripAnsi s = s := by
  rw [stripAnsi, stripFrom_eq_self h, String.ofList_toList]

end Text

namespace Report

theorem isPlain_json (s : Settings) (c : Collection) : Json.IsPlain (json s c).toList :=
  Json.isPlain_renderAt 0 _

/-- There is nothing to strip from a report in JSON. -/
theorem stripAnsi_json (s : Settings) (c : Collection) : Text.stripAnsi (json s c) = json s c :=
  Text.stripAnsi_eq_self fun h =>
    absurd (isPlain_json s c Text.escape h) (by decide)

/-- A report in JSON has no summary. -/
theorem full_of_json {s : Settings} (hs : s.outputFormat = .json) (r : RunResult) :
    full s r = json s r.collection := by
  simp only [full, body, hs]

end Report

/-! ## Calls -/

namespace CommandLine

/-- A call of `lint` that nothing is wrong with, with its settings, arguments and paths. -/
structure LintCall (h : Host) (call : List String) (s : Settings) (a : Arguments)
    (paths : List Path) : Prop where
  reads : ∃ g args log, readGlobals h call = .ok (g, "lint" :: args) ∧
    loadSettings h g.configPath = (log, .ok s) ∧ readArguments h .lint args = .ok a
  offered : a.Offered
  exist : readPaths h a.operands = .ok paths

/-- What is written about a run in JSON is its report and a line break, in colour or not. -/
theorem out_reported {r : Run} (hr : r.settings.outputFormat = .json) (h : Host) (v : Verbosity) :
    (reported h v r).out = Report.json r.settings r.result.collection ++ "\n" := by
  simp only [reported, Report.full_of_json hr, Outcome.echoed, Report.stripAnsi_json, ite_self]

/-- A call that nothing is wrong with reports on a run over its paths. -/
theorem LintCall.run_eq {h : Host} {call : List String} {s : Settings} {a : Arguments}
    {paths : List Path} (hcall : LintCall h call s a paths) :
    ∃ v log, run h call =
      .exit ((reported h v (.ofPaths h.tree h.cwd (a.laidOver s) paths)).after log) := by
  obtain ⟨⟨g, args, log, hglobals, hload, hread⟩, hoffered, hpaths⟩ := hcall
  have hne : call ≠ [] := by
    rintro rfl
    exact nomatch hglobals
  have hcommand : readCommand h ("lint" :: args) = .ok (.lint, args) := rfl
  have hrun : runLint h g.verbosity s args =
      .ok (reported h g.verbosity (.ofPaths h.tree h.cwd (a.laidOver s) paths)) := by
    rw [runLint_eq, lintRun_eq hread hoffered, hpaths]
    rfl
  refine ⟨g.verbosity, LogLine.render g.verbosity log, ?_⟩
  rw [run, if_neg hne, hglobals]
  simp only [bind, Except.bind, hcommand, pure, Except.pure, runWith, hload, runCommand, hrun]

end CommandLine

/-! ## Reading a report back -/

open CommandLine in
/-- A report in JSON means the objects of the diagnostics in the order of their places, and nothing
else. It consists of line breaks and of the characters from the space to the tilde, so that there is
nothing to strip from it, and a call that asks for it writes it to the output and ends the line. -/
theorem json_means_diagnostics :
    (∀ (s : Settings) (c : Collection),
      (∀ v, Json.Denotes (Report.json s c) v ↔
        v = .arr (c.sorted.map (Report.object s.showSource))) ∧
      (∀ char ∈ (Report.json s c).toList, char = '\n' ∨ ' ' ≤ char ∧ char ≤ '~') ∧
      Text.stripAnsi (Report.json s c) = Report.json s c) ∧
    ∀ (h : Host) (call : List String) (s : Settings) (a : Arguments) (paths : List Path),
      LintCall h call s a paths → a.value? "--format" = some "json" →
        ∃ outcome, run h call = .exit outcome ∧
          outcome.out = Report.json (a.laidOver s)
            (Run.ofPaths h.tree h.cwd (a.laidOver s) paths).result.collection ++ "\n" := by
  refine ⟨fun s c => ⟨Json.denotes_render _, Report.isPlain_json s c, Report.stripAnsi_json s c⟩,
    fun h call s a paths hcall hformat => ?_⟩
  obtain ⟨v, log, hrun⟩ := hcall.run_eq
  have hjson : (a.laidOver s).outputFormat = .json := by
    have hword : a.value? "--format" = some OutputFormat.json.word := hformat
    rw [Arguments.laidOver, format?_of_value? hword]
    rfl
  exact ⟨_, hrun, out_reported hjson h v⟩

/-- A finding whose texts hold quotes, a backslash, a control sequence and a character beyond the
first plane. -/
def strangeFinding : Diagnostic where
  file := .ofString "a\"b.py"
  location := ⟨1, -20, none, some 100000000000000000000⟩
  code := "SYN001"
  message := "\\ \x1b[31m😀"
  severity := .error
  sourceLine := some "\x7f\x00"
  data := [("\t", "é")]

/-- A directory with a file whose name holds a control sequence. -/
def strangeProject : CommandLine.Host where
  tree := {
    entries := [(["\x1b[31m😀\".py"], .file ("(".toList.flatMap String.utf8EncodeChar))]
    lawful := ⟨by decide, by decide, by decide, by decide⟩ }
  cwd := .absolute []
  program := "graphpc-lint"
  seconds := "0.000"

open CommandLine in
/-- The texts of a finding survive, and so does a control sequence in the name of a file. -/
theorem json_means_diagnostics_strangeProject :
    Json.Denotes (Report.json {} (.add .empty strangeFinding))
      (.arr [Report.object true strangeFinding]) ∧
    ∃ outcome, run strangeProject ["lint", "--format=json", "\x1b[31m😀\".py"] = .exit outcome ∧
      outcome.out = Report.json { outputFormat := .json }
        (Run.ofPaths strangeProject.tree strangeProject.cwd { outputFormat := .json }
          [.ofString "\x1b[31m😀\".py"]).result.collection ++ "\n" := by
  obtain ⟨hmeans, hcalls⟩ := json_means_diagnostics
  have hcall : LintCall strangeProject ["lint", "--format=json", "\x1b[31m😀\".py"] {}
      ⟨[⟨"--format", "json"⟩], ["\x1b[31m😀\".py"]⟩ [.ofString "\x1b[31m😀\".py"] := by
    refine ⟨⟨⟨none, .silent⟩, _, _, rfl, rfl, rfl⟩, ⟨fun word hword => ?_, nofun⟩, by decide⟩
    exact ⟨.json, Option.some.inj hword⟩
  have hsorted : (Collection.add .empty strangeFinding).sorted = [strangeFinding] :=
    List.mergeSort_singleton _
  have hover : Arguments.laidOver ⟨[⟨"--format", "json"⟩], ["\x1b[31m😀\".py"]⟩ {} =
      { outputFormat := .json } := rfl
  have hprinted := hcalls _ _ _ _ _ hcall rfl
  rw [hover] at hprinted
  exact ⟨((hmeans {} _).1 _).mpr (by rw [hsorted]; rfl), hprinted⟩

end NodeLint
