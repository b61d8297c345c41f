import NodeLint.Proofs.CommandLine.Lint
import NodeLint.Proofs.Settings.Problems

/-!
# Presentation and verdict

How findings are shown, and how much a call tells about itself, is decided apart from what is found.
Two calls of `lint` that differ in the options and settings about the look of the report look at the
same files, find the same and end alike. A call that is asked to log more writes the same and ends
alike: the log goes to the error stream, and nothing else hears of it.
-/

namespace NodeLint

/-! ## The look of a report -/

namespace Settings

/-- The settings about the look of a report. -/
def presentational : List String := ["output_format", "color", "show_source"]

/-- Tables that agree on all else give settings that agree on all else. -/
theorem plain_eq_of_ofTable {path : Option Path} {t t' : Table} {s s' : Settings}
    (ht : ofTable path t = .ok s) (ht' : ofTable path t' = .ok s')
    (hagree : ∀ key, key ∉ presentational → t.get? key = t'.get? key) : s.plain = s'.plain := by
  obtain ⟨-, rfl⟩ := (ofTable_eq_ok_iff path t s).mp ht
  obtain ⟨-, rfl⟩ := (ofTable_eq_ok_iff path t' s').mp ht'
  rw [check, check, hagree "preset" (by decide), hagree "include" (by decide),
    hagree "exclude" (by decide), hagree "rules" (by decide), hagree "ignores" (by decide)]
  rfl

end Settings

namespace CommandLine

namespace Arguments

/-- A request for help is no matter of presentation. -/
theorem first?_unadorned (a : Arguments) :
    a.unadorned.first? ["--help", "--version"] = a.first? ["--help", "--version"] := by
  rw [first?, first?, unadorned, List.find?_filter]
  congr 2
  funext o
  by_cases hname : o.name ∈ presentational
  · simp only [presentational, List.mem_cons, List.not_mem_nil, or_false] at hname
    rcases hname with hname | hname | hname | hname <;> simp [hname, presentational]
  · simp [hname]

end Arguments

/-- What keeps the requests of a call keeps the answer to them. -/
theorem answered_map {f : Arguments → Arguments} {a : Arguments}
    (hf : (f a).first? ["--help", "--version"] = a.first? ["--help", "--version"]) (h : Host)
    (c : Command) : answered h c (f a) = (answered h c a).map f := by
  rw [answered, answered, hf]
  split <;> rfl

theorem answered_eq_ok {h : Host} {c : Command} {a b : Arguments} (hb : answered h c a = .ok b) :
    b = a := by
  unfold answered at hb
  split at hb
  · exact nomatch hb
  · exact nomatch hb
  · exact (Except.ok.inj hb).symm

/-- The arguments of `lint` in a list of words. -/
abbrev lintArguments (args : List String) : Except OptionFault Arguments :=
  Arguments.read Command.lint.options true args

/-- Whether the choices that the arguments of `lint` make are among those there are. -/
def Offered (args : List String) : Prop := ∀ a, lintArguments args = .ok a → a.Offered

/-- Whether arguments of `lint` are the same but for the options about the look of the report. -/
def OtherwiseEqual (args args' : List String) : Prop :=
  (lintArguments args).map Arguments.unadorned = (lintArguments args').map Arguments.unadorned

/-- The verdict of a call of `lint`, given its arguments without the options about presentation. -/
def verdictOf (h : Host) (s : Settings) (given : Except OptionFault Arguments) :
    Except Outcome Verdict := do
  let a ← given.mapError fun f => .wrongCall h .lint (.badOption f)
  let a ← answered h .lint a
  let paths ← readPaths h a.operands
  return (Run.ofPaths h.tree h.cwd s paths).verdict

/-- The verdict of a call hangs on nothing that is about presentation. -/
theorem verdict_lintRun {args : List String} (hoffered : Offered args) (h : Host) (s : Settings) :
    (lintRun h s args).map Run.verdict =
      verdictOf h s.plain ((lintArguments args).map Arguments.unadorned) := by
  have hread := readArguments_eq h .lint args
  change _ = (lintArguments args).mapError _ >>= _ at hread
  cases hargs : lintArguments args with
  | error fault =>
    rw [hargs] at hread
    rw [lintRun, hread]
    rfl
  | ok a =>
    rw [hargs] at hread
    change _ = answered h .lint a at hread
    change _ = (answered h .lint a.unadorned >>= _)
    rw [answered_map a.first?_unadorned]
    cases hanswer : answered h .lint a with
    | error o =>
      rw [hanswer] at hread
      rw [lintRun, hread]
      rfl
    | ok b =>
      obtain rfl := answered_eq_ok hanswer
      rw [hanswer] at hread
      rw [lintRun_eq hread (hoffered b hargs)]
      change _ = (readPaths h b.operands >>= _)
      cases readPaths h b.operands with
      | error o => rfl
      | ok paths =>
        -- The options touch only what `plain` sets back.
        have hplain : (b.laidOver s).plain = s.plain := rfl
        have hverdict := Run.verdict_plain h.tree h.cwd (b.laidOver s) paths
        rw [hplain] at hverdict
        exact congrArg Except.ok hverdict.symm

/-- The exit code of `lint` is that of its verdict, if it comes to one. -/
theorem exitCode_runCommand_lint (h : Host) (v : Verbosity) (s : Settings) (args : List String) :
    (runCommand h v s .lint args).exitCode =
      match (lintRun h s args).map Run.verdict with
      | .ok verdict => verdict.exitCode
      | .error o => o.exitCode := by
  simp only [runCommand, runLint_eq]
  cases lintRun h s args with
  | error o => rfl
  | ok r => rfl

/-! ## The log -/

namespace Ending

/-- The exit code of a call; one that breaks off fails. -/
def exitCode : Ending → Nat
  | .exit o => o.exitCode
  | .brokenOff _ => 1

/-- What a call writes to the output; one that breaks off writes nothing. -/
def out : Ending → String
  | .exit o => o.out
  | .brokenOff _ => ""

/-- All that a call shows beside the error stream. -/
def shown (e : Ending) : Nat × String := (e.exitCode, e.out)

end Ending

/-- The options that ask for a log. -/
def logging : List String := ["--verbose", "--debug"]

namespace Arguments

/-- Arguments with options in front that take no value. -/
def flagged (flags : List String) (a : Arguments) : Arguments :=
  { a with options := flags.map (fun flag => ⟨flag, ""⟩) ++ a.options }

variable {flags : List String}

/-- Options in front that ask for a log are read before all else. -/
theorem read_flagged (hflags : ∀ flag ∈ flags, flag ∈ logging) (args : List String) :
    read Command.tool.options false (flags ++ args) =
      (read Command.tool.options false args).map (flagged flags) := by
  induction flags with
  | nil =>
    rw [List.nil_append]
    cases read Command.tool.options false args <;> rfl
  | cons flag flags ih =>
    have hstep : read Command.tool.options false (flag :: (flags ++ args)) =
        (read Command.tool.options false (flags ++ args)).map (addOption flag "") := by
      have hflag := hflags flag List.mem_cons_self
      simp only [logging, List.mem_cons, List.not_mem_nil, or_false] at hflag
      rcases hflag with rfl | rfl <;> rfl
    have hrest : ∀ other ∈ flags, other ∈ logging := fun other hother =>
      hflags other (List.mem_cons_of_mem _ hother)
    rw [List.cons_append, hstep, ih hrest]
    cases read Command.tool.options false args <;> rfl

/-- No option in front is found that is not one of them. -/
theorem find?_flagged {wanted : GivenOption → Bool}
    (hwanted : ∀ flag ∈ flags, ¬ wanted ⟨flag, ""⟩) :
    (flags.map fun flag => (⟨flag, ""⟩ : GivenOption)).find? wanted = none := by
  rw [List.find?_eq_none]
  intro o ho
  obtain ⟨flag, hflag, rfl⟩ := List.mem_map.mp ho
  exact hwanted flag hflag

theorem first?_flagged {names : List String} (hnames : ∀ flag ∈ flags, flag ∉ names)
    (a : Arguments) : (a.flagged flags).first? names = a.first? names := by
  rw [first?, first?, flagged, List.find?_append, find?_flagged, Option.none_or]
  intro flag hflag
  simpa using hnames flag hflag

theorem value?_flagged {name : String} (hname : ∀ flag ∈ flags, flag ≠ name) (a : Arguments) :
    (a.flagged flags).value? name = a.value? name := by
  have hnone : (flags.reverse.map fun flag => (⟨flag, ""⟩ : GivenOption)).find?
      (fun o => o.name = name) = none := by
    refine find?_flagged fun flag hflag => ?_
    simpa using hname flag (List.mem_reverse.mp hflag)
  rw [value?, value?, flagged, List.reverse_append, List.find?_append, ← List.map_reverse, hnone,
    Option.or_none]

end Arguments

/-- What is left of the options of the tool when the log is put aside. -/
def aim (g : Globals × List String) : Option Path × List String := (g.1.configPath, g.2)

/-- A call that asks for a log is otherwise read as before. -/
theorem readGlobals_flagged {flags : List String} (hflags : ∀ flag ∈ flags, flag ∈ logging)
    (h : Host) (args : List String) :
    (readGlobals h (flags ++ args)).map aim = (readGlobals h args).map aim := by
  have hrequests : ∀ flag ∈ flags, flag ∉ ["--help", "--version"] := fun flag hflag =>
    (by decide : ∀ flag ∈ logging, flag ∉ ["--help", "--version"]) flag (hflags flag hflag)
  have hconfig : ∀ flag ∈ flags, flag ≠ "--config" := fun flag hflag =>
    (by decide : ∀ flag ∈ logging, flag ≠ "--config") flag (hflags flag hflag)
  have hread : readArguments h .tool (flags ++ args) =
      (readArguments h .tool args).map (Arguments.flagged flags) := by
    rw [readArguments_eq, readArguments_eq]
    simp only [ne_eq, not_true_eq_false, decide_false, Arguments.read_flagged hflags]
    cases Arguments.read Command.tool.options false args with
    | error fault => rfl
    | ok a => exact answered_map (a.first?_flagged hrequests) h .tool
  rw [readGlobals, readGlobals, hread]
  cases readArguments h .tool args with
  | error o => rfl
  | ok a =>
    simp only [Except.map, bind, Except.bind, a.value?_flagged hconfig]
    cases (a.value? "--config").filter h.leadsToDirectory with
    | none => rfl
    | some word => rfl

/-- What comes of a call when the options of the tool are read. -/
def proceed (h : Host) (v : Verbosity) (aim : Option Path × List String) : Ending :=
  match readCommand h aim.2 with
  | .error o => .exit o
  | .ok (c, args) => runWith h ⟨aim.1, v⟩ c args

/-- Neither the log nor the time that a call takes is shown. -/
theorem shown_runWith (h : Host) (seconds : String) (configPath : Option Path) (v v' : Verbosity)
    (c : Command) (args : List String) :
    (runWith { h with seconds := seconds } ⟨configPath, v⟩ c args).shown =
      (runWith h ⟨configPath, v'⟩ c args).shown := by
  have hload : loadSettings { h with seconds := seconds } configPath = loadSettings h configPath :=
    rfl
  have hcommand (s : Settings) :
      (Ending.exit (runCommand { h with seconds := seconds } v s c args)).shown =
        (Ending.exit (runCommand h v' s c args)).shown := by
    cases c with
    | lint =>
      have hrun : lintRun { h with seconds := seconds } s args = lintRun h s args := rfl
      simp only [runCommand, runLint_eq, hrun]
      cases lintRun h s args with
      | error o => rfl
      | ok r => rfl
    | _ => rfl
  simp only [runWith, hload]
  split
  · exact hcommand _
  · rfl
  · rfl

/-- What a call shows is settled by what is left of the options of the tool. -/
theorem shown_run (h : Host) (args : List String) :
    (run h args).shown =
      match (readGlobals h args).map aim with
      | .error o => (Ending.exit o).shown
      | .ok aim => (proceed h .silent aim).shown := by
  by_cases hargs : args = []
  · -- A call without arguments fails like one without a command.
    subst hargs
    have hglobals : readGlobals h [] = .ok (⟨none, .silent⟩, []) := rfl
    rw [hglobals, run, if_pos rfl]
    simp only [Except.map, aim, proceed, readCommand, Outcome.wrongCall, Outcome.failure,
      Ending.shown, Ending.exitCode, Ending.out]
  · rw [run, if_neg hargs]
    cases readGlobals h args with
    | error o => rfl
    | ok globals =>
      obtain ⟨g, words⟩ := globals
      simp only [bind, Except.bind, Except.map, aim, proceed]
      cases readCommand h words with
      | error o => rfl
      | ok command => exact shown_runWith h h.seconds g.configPath g.verbosity .silent _ _

/-- A call that asks for a log shows what it shows without, however long it takes. -/
theorem shown_run_flagged {flags : List String} (hflags : ∀ flag ∈ flags, flag ∈ logging)
    (h : Host) (seconds : String) (args : List String) :
    (run { h with seconds := seconds } (flags ++ args)).shown = (run h args).shown := by
  have hglobals : readGlobals { h with seconds := seconds } args = readGlobals h args := rfl
  rw [shown_run, shown_run, readGlobals_flagged hflags, hglobals]
  cases (readGlobals h args).map aim with
  | error o => rfl
  | ok aim =>
    have hcommand : readCommand { h with seconds := seconds } aim.2 = readCommand h aim.2 := rfl
    simp only [proceed, hcommand]
    cases readCommand h aim.2 with
    | error o => rfl
    | ok command => exact shown_runWith h seconds aim.1 .silent .silent _ _

/-- Calls of `lint` whose arguments and settings are the same but for presentation make runs with
the same verdict, on which they report, and end alike; settings are the same but for presentation if
the tables that they were read from are. A call with options in front that ask for a log ends like
the call without them and writes the same output. -/
theorem presentation_keeps_verdict (h : Host) :
    (∀ (s s' : Settings) (args args' : List String), s.plain = s'.plain →
      OtherwiseEqual args args' → Offered args → Offered args' →
        (lintRun h s args).map Run.verdict = (lintRun h s' args').map Run.verdict ∧
        ∀ v v', runLint h v s args = (lintRun h s args).map (reported h v) ∧
          (runCommand h v s .lint args).exitCode = (runCommand h v' s' .lint args').exitCode) ∧
    (∀ (path : Option Path) (t t' : Table) (s s' : Settings), Settings.ofTable path t = .ok s →
      Settings.ofTable path t' = .ok s' →
      (∀ key, key ∉ ["output_format", "color", "show_source"] → t.get? key = t'.get? key) →
        s.plain = s'.plain) ∧
    ∀ (flags args : List String) (seconds : String),
      (∀ flag ∈ flags, flag ∈ ["--verbose", "--debug"]) →
        (run { h with seconds := seconds } (flags ++ args)).exitCode = (run h args).exitCode ∧
        (run { h with seconds := seconds } (flags ++ args)).out = (run h args).out := by
  refine ⟨fun s s' args args' hs hargs hoffered hoffered' => ?_,
    fun path t t' s s' => Settings.plain_eq_of_ofTable, fun flags args seconds hflags => ?_⟩
  · have hverdict :
        (lintRun h s args).map Run.verdict = (lintRun h s' args').map Run.verdict := by
      rw [verdict_lintRun hoffered, verdict_lintRun hoffered', hs, hargs]
    refine ⟨hverdict, fun v v' => ⟨runLint_eq h v s args, ?_⟩⟩
    rw [exitCode_runCommand_lint, exitCode_runCommand_lint, hverdict]
  · exact Prod.mk.inj (shown_run_flagged hflags h seconds args)

/-- A directory with a file that is no program. -/
def brokenProject : Host where
  tree := {
    entries := [(["a.py"], .file ("(".toList.flatMap String.utf8EncodeChar))]
    lawful := ⟨by decide, by decide, by decide, by decide⟩ }
  cwd := .absolute []
  program := "graphpc-lint"
  seconds := "0.000"

/-- The options may stand anywhere, and one that is given twice counts by its last value. -/
theorem presentation_keeps_verdict_brokenProject :
    (lintRun brokenProject {} ["--format", "xml", "a.py", "--format=json"]).map Run.verdict =
      (lintRun brokenProject { color := .always } ["--no-show-source", "a.py"]).map Run.verdict ∧
    (run { brokenProject with seconds := "1.000" } ["--debug", "--verbose", "lint", "a.py"]).out =
      (run brokenProject ["lint", "a.py"]).out := by
  have hargs : lintArguments ["--format", "xml", "a.py", "--format=json"] =
      .ok ⟨[⟨"--format", "xml"⟩, ⟨"--format", "json"⟩], ["a.py"]⟩ := by decide
  have hargs' : lintArguments ["--no-show-source", "a.py"] =
      .ok ⟨[⟨"--no-show-source", ""⟩], ["a.py"]⟩ := by decide
  have hoffered : Offered ["--format", "xml", "a.py", "--format=json"] := by
    intro a ha
    obtain rfl := Except.ok.inj (hargs.symm.trans ha)
    exact ⟨fun word hword => ⟨.json, Option.some.inj hword⟩, fun word hword => nomatch hword⟩
  have hoffered' : Offered ["--no-show-source", "a.py"] := by
    intro a ha
    obtain rfl := Except.ok.inj (hargs'.symm.trans ha)
    exact ⟨nofun, nofun⟩
  have hequal : OtherwiseEqual ["--format", "xml", "a.py", "--format=json"]
      ["--no-show-source", "a.py"] := by
    rw [OtherwiseEqual, hargs, hargs']
    rfl
  obtain ⟨hlook, -, hlog⟩ := presentation_keeps_verdict brokenProject
  exact ⟨(hlook {} { color := .always } _ _ rfl hequal hoffered hoffered').1,
    (hlog ["--debug", "--verbose"] ["lint", "a.py"] "1.000" (by decide)).2⟩

end CommandLine
end NodeLint
