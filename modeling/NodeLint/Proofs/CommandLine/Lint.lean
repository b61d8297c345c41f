import NodeLint.CommandLine

/-!
# A call of `lint`

A call of `lint` reads its arguments, lays its options over the settings, and makes a run over the
paths that are left. What it writes and how it ends is read off the run. The options and settings
about the look of a report are chosen last, and the run hangs on none of them.
-/

namespace NodeLint

/-! ## Presentation in settings -/

namespace Settings

/-- Settings with the presentation that is the default. -/
def plain (s : Settings) : Settings :=
  { s with outputFormat := .text, color := .auto, showSource := true }

end Settings

/-- What a run comes to: the files it looked at, what it found, and how it ends. -/
structure Verdict where
  files : List SourceFile
  diagnostics : List Diagnostic
  exitCode : Nat

/-- The verdict of a run. -/
def Run.verdict (r : Run) : Verdict where
  files := r.files
  diagnostics := r.result.collection.items
  exitCode := r.result.exitCode

/-- The presentation plays no part in a verdict. -/
theorem Run.verdict_plain (t : FileTree) (cwd : Path) (s : Settings) (paths : List Path) :
    (ofPaths t cwd s.plain paths).verdict = (ofPaths t cwd s paths).verdict := rfl

namespace CommandLine

/-! ## Reading arguments -/

/-- Answer a request for help or for the version. -/
def answered (h : Host) (c : Command) (a : Arguments) : Except Outcome Arguments :=
  match a.first? ["--help", "--version"] with
  | some "--help" => .error (.success (c.help h.program))
  | some _ => .error (.success (Settings.toolName ++ ", version 0.1.0"))
  | none => .ok a

/-- Arguments are read, and then requests are answered. -/
theorem readArguments_eq (h : Host) (c : Command) (args : List String) :
    readArguments h c args =
      (Arguments.read c.options (c ≠ .tool) args).mapError (fun f => .wrongCall h c (.badOption f))
        >>= answered h c := by
  unfold readArguments answered
  cases Arguments.read c.options (c ≠ .tool) args with
  | error fault => rfl
  | ok a => rfl

/-! ## The run of a call -/

/-- The run that a call of `lint` makes. -/
def lintRun (h : Host) (s : Settings) (args : List String) : Except Outcome Run := do
  let a ← readArguments h .lint args
  let s ← (a.options.map GivenOption.name).eraseDups.foldlM (overrule h a) s
  let paths ← readPaths h a.operands
  return Run.ofPaths h.tree h.cwd { s with showSource := showsSource a s.showSource } paths

/-- What a call writes about its run, and how it ends. -/
def reported (h : Host) (v : Verbosity) (r : Run) : Outcome :=
  let report := Report.full r.settings r.result
  { exitCode := r.result.exitCode
    out := if r.settings.color = .always then report ++ "\n" else Outcome.echoed report
    err := LogLine.render v (r.log h.seconds) }

/-- A call of `lint` reports on its run. -/
theorem runLint_eq (h : Host) (v : Verbosity) (s : Settings) (args : List String) :
    runLint h v s args = (lintRun h s args).map (reported h v) := by
  unfold runLint lintRun
  cases readArguments h .lint args with
  | error o => rfl
  | ok a =>
    simp only [bind, Except.bind]
    cases (a.options.map GivenOption.name).eraseDups.foldlM (overrule h a) s with
    | error o => rfl
    | ok s =>
      simp only
      cases readPaths h a.operands with
      | error o => rfl
      | ok paths => rfl

namespace Arguments

/-- The options about the look of a report. -/
def presentational : List String := ["--format", "--color", "--show-source", "--no-show-source"]

/-- Arguments without the options about the look of a report. -/
def unadorned (a : Arguments) : Arguments :=
  { a with options := a.options.filter fun o => o.name ∉ presentational }

/-- Whether the format and the colour that are asked for are among those there are. -/
structure Offered (a : Arguments) : Prop where
  format : ∀ word ∈ a.value? "--format", ∃ format : OutputFormat, format.word = word
  color : ∀ word ∈ a.value? "--color", ∃ mode : ColorMode, mode.word = word

/-- The format that is asked for. -/
def format? (a : Arguments) : Option OutputFormat :=
  (a.value? "--format").bind fun word => OutputFormat.all.find? fun format => format.word = word

/-- The colour that is asked for. -/
def color? (a : Arguments) : Option ColorMode :=
  (a.value? "--color").bind fun word => ColorMode.all.find? fun mode => mode.word = word

/-- The settings with what the options ask for. -/
def laidOver (a : Arguments) (s : Settings) : Settings :=
  { s with
    outputFormat := a.format?.getD s.outputFormat
    color := a.color?.getD s.color
    showSource := showsSource a s.showSource }

/-- An option has a value exactly if it was given. -/
theorem value?_eq_none_iff (a : Arguments) (name : String) :
    a.value? name = none ↔ name ∉ a.options.map GivenOption.name := by
  simp [value?, List.find?_eq_none]

end Arguments

/-- A format goes by its word. -/
theorem find?_format (format : OutputFormat) :
    (OutputFormat.all.find? fun f => f.word = format.word) = some format := by
  cases format <;> decide

/-- A colour goes by its word. -/
theorem find?_color (mode : ColorMode) :
    (ColorMode.all.find? fun m => m.word = mode.word) = some mode := by
  cases mode <;> decide

/-- The settings with what some of the options ask for. -/
def overruled (a : Arguments) (s : Settings) (names : List String) : Settings :=
  { s with
    outputFormat := if "--format" ∈ names then a.format?.getD s.outputFormat else s.outputFormat
    color := if "--color" ∈ names then a.color?.getD s.color else s.color }

theorem overruled_cons (a : Arguments) (s : Settings) (name : String) (names : List String) :
    overruled a (overruled a s [name]) names = overruled a s (name :: names) := by
  have hrepeat {α : Type} (o : Option α) (b : α) : o.getD (o.getD b) = o.getD b := by
    cases o <;> rfl
  simp only [overruled, List.mem_cons]
  by_cases hformat : "--format" = name <;> by_cases hcolor : "--color" = name <;>
    simp [hformat, hcolor, hrepeat]

/-- Options that ask for nothing change nothing. -/
theorem overruled_eq_self {a : Arguments} {s : Settings} {names : List String}
    (hformat : "--format" ∈ names → a.format? = none)
    (hcolor : "--color" ∈ names → a.color? = none) : overruled a s names = s := by
  unfold overruled
  split
  · rename_i hmem
    rw [hformat hmem]
    split
    · rename_i hmem
      rw [hcolor hmem]
      rfl
    · rfl
  · split
    · rename_i hmem
      rw [hcolor hmem]
      rfl
    · rfl

variable {a : Arguments}

theorem format?_of_value? {format : OutputFormat} (h : a.value? "--format" = some format.word) :
    a.format? = some format := by
  rw [Arguments.format?, h, Option.bind_some, find?_format]

theorem color?_of_value? {mode : ColorMode} (h : a.value? "--color" = some mode.word) :
    a.color? = some mode := by
  rw [Arguments.color?, h, Option.bind_some, find?_color]

/-- One option changes what it is about. -/
theorem overrule_eq (h : Host) (ha : a.Offered) (s : Settings) (name : String) :
    overrule h a s name = .ok (overruled a s [name]) := by
  unfold overrule
  split
  · rename_i word hword
    obtain ⟨format, rfl⟩ := ha.format word hword
    simp [overruled, choose, find?_format, format?_of_value? hword, bind, Except.bind, pure,
      Except.pure]
  · rename_i word hword
    obtain ⟨mode, rfl⟩ := ha.color word hword
    simp [overruled, choose, find?_color, color?_of_value? hword, bind, Except.bind, pure,
      Except.pure]
  · rename_i name _ _ hformat hcolor
    refine congrArg Except.ok (overruled_eq_self (fun hname => ?_) fun hname => ?_).symm
    · obtain rfl := List.mem_singleton.mp hname
      rw [Arguments.format?, Option.eq_none_iff_forall_ne_some.mpr fun word => hformat word rfl]
      rfl
    · obtain rfl := List.mem_singleton.mp hname
      rw [Arguments.color?, Option.eq_none_iff_forall_ne_some.mpr fun word => hcolor word rfl]
      rfl

/-- Options change what they are about, in any order. -/
theorem foldlM_overrule (h : Host) (ha : a.Offered) (names : List String) (s : Settings) :
    names.foldlM (overrule h a) s = .ok (overruled a s names) := by
  induction names generalizing s with
  | nil => rfl
  | cons name names ih =>
    rw [List.foldlM_cons, overrule_eq h ha]
    exact (ih _).trans (congrArg Except.ok (overruled_cons a s name names))

/-- The options of a call change what they ask for. -/
theorem overruled_options (a : Arguments) (s : Settings) :
    overruled a s (a.options.map GivenOption.name).eraseDups =
      { s with
        outputFormat := a.format?.getD s.outputFormat
        color := a.color?.getD s.color } := by
  -- What is asked for by an option that is not given is nothing.
  have hask {α : Type} (name : String) (meaning : String → Option α) (b : α) :
      (if name ∈ (a.options.map GivenOption.name).eraseDups then
        ((a.value? name).bind meaning).getD b else b) = ((a.value? name).bind meaning).getD b := by
    split
    · rfl
    · rename_i hmem
      rw [List.mem_eraseDups, ← Arguments.value?_eq_none_iff] at hmem
      rw [hmem]
      rfl
  rw [overruled, Arguments.format?, Arguments.color?, hask, hask]

/-- A call whose arguments are read makes a run over its paths, under the settings that its options
ask for. -/
theorem lintRun_eq {h : Host} {args : List String} (hread : readArguments h .lint args = .ok a)
    (ha : a.Offered) (s : Settings) :
    lintRun h s args = (readPaths h a.operands).map (Run.ofPaths h.tree h.cwd (a.laidOver s)) := by
  rw [lintRun, hread]
  simp only [bind, Except.bind, foldlM_overrule h ha, overruled_options]
  cases readPaths h a.operands with
  | error o => rfl
  | ok paths => rfl

end CommandLine
end NodeLint
