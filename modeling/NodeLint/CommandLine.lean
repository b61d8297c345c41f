import NodeLint.CommandLine.Usage
import NodeLint.Catalog
import NodeLint.Report
import NodeLint.Settings.Report

/-!
# The command line

A call is a function of the file tree, the working directory and the arguments. It ends with an
exit code and with what is written to the two output streams.

The options of the tool are read first, up to the name of the command. Then settings are loaded,
and only then the command reads its own arguments: settings that cannot be loaded come before
anything that is wrong with these. Nothing is written to a terminal, so control sequences are
stripped from what is written, unless colour is asked for.
-/

namespace NodeLint.CommandLine

/-- What a call finds around it. -/
structure Host where
  tree : FileTree
  cwd : Path
  /-- The name the program was called by. -/
  program : String
  /-- The time a run takes, in seconds. -/
  seconds : String

/-- The end of a call. -/
structure Outcome where
  exitCode : Nat := 0
  out : String := ""
  err : String := ""
deriving Repr, DecidableEq

/-- A call can also break off at a document of settings whose shape nothing provides for. -/
inductive Ending where
  | exit (outcome : Outcome)
  | brokenOff (cause : Settings.LoadError)
deriving Repr, DecidableEq

namespace Outcome

/-- Text as it is written, on a line of its own. -/
def echoed (text : String) : String := Text.stripAnsi text ++ "\n"

/-- Write to the output and succeed. -/
def success (text : String) : Outcome := { out := echoed text }

/-- Write to the error stream and fail. -/
def failure (exitCode : Nat) (text : String) : Outcome := { exitCode := exitCode, err := echoed text }

/-- The end of a wrong call. -/
def wrongCall (h : Host) (c : Command) (e : UsageError) : Outcome :=
  failure 2 (e.text h.program c)

/-- Put log text in front of the error stream. -/
def after (log : String) (o : Outcome) : Outcome := { o with err := log ++ o.err }

end Outcome

/-- Read the arguments of a command. A request for help comes before all that is wrong with
values. -/
def readArguments (h : Host) (c : Command) (args : List String) : Except Outcome Arguments := do
  match Arguments.read c.options (c ≠ .tool) args with
  | .error fault => throw (.wrongCall h c (.badOption fault))
  | .ok a =>
    match a.first? ["--help", "--version"] with
    | some "--help" => throw (.success (c.help h.program))
    | some _ => throw (.success (Settings.toolName ++ ", version 0.1.0"))
    | none => pure a

/-! ## The tool -/

/-- The options of the tool. -/
structure Globals where
  configPath : Option Path
  verbosity : Verbosity

/-- Whether a word leads to a directory. -/
def Host.leadsToDirectory (h : Host) (word : String) : Bool :=
  match h.tree.status h.cwd word with
  | .ok .directory => true
  | _ => false

/-- Read the options of the tool, and what is left behind them. -/
def readGlobals (h : Host) (args : List String) : Except Outcome (Globals × List String) := do
  let a ← readArguments h .tool args
  let word := a.value? "--config"
  match word.filter h.leadsToDirectory with
  | some word => throw (.wrongCall h .tool (.directory "--config" word))
  | none =>
    let verbosity :=
      if a.has "--debug" then .debug else if a.has "--verbose" then .verbose else .silent
    return (⟨word.map Path.ofString, verbosity⟩, a.operands)

/-- The command that a word names, and its arguments. A word that names none is looked at once
more as an option of the tool. -/
def readCommand (h : Host) (words : List String) : Except Outcome (Command × List String) :=
  match words with
  | [] => .error (.wrongCall h .tool .missingCommand)
  | name :: args =>
    match Command.ofName? name with
    | some c => .ok (c, args)
    | none => do
      let _ ← readGlobals h words
      throw (.wrongCall h .tool (.unknownCommand name))

/-- The log of loading settings, and the settings. -/
def loadSettings (h : Host) (configPath : Option Path) :
    List LogLine × Except (Path × Settings.LoadError) Settings :=
  match configPath <|> Settings.findDocument? h.tree h.cwd with
  | none => ([⟨.debug, .config, "No pyproject.toml found, using defaults"⟩], .ok {})
  | some path =>
    match Settings.readSection h.tree h.cwd path with
    | .error e => ([], .error (path, e))
    | .ok settings =>
      ([⟨.debug, .config, "Loaded configuration from " ++ path.text⟩],
        (Settings.resolve path settings).mapError fun e => (path, e))

/-! ## The commands -/

/-- Refuse operands that a command has no use for. -/
def refuse (h : Host) (c : Command) (extra : List String) : Except Outcome Unit :=
  if extra = [] then .ok () else .error (.wrongCall h c (.extraArguments extra))

/-- Show the settings. -/
def runConfig (h : Host) (s : Settings) (args : List String) : Except Outcome Outcome := do
  let a ← readArguments h .config args
  refuse h .config a.operands
  return .success (
    if a.has "--validate" then
      "Configuration valid: " ++ (s.configPath.map Path.text).getD "(defaults)"
    else if a.has "--json" then s.jsonText
    else s.text)

/-- The table of all rules with their severities. -/
def ruleTable (s : Settings) : String :=
  RuleSheet.table RuleSheet.all
    (RuleSheet.all.map fun r => (r.code, (s.severity r.code).text))

/-- The sheet of a rule, with its severity in the default preset and in the settings. -/
def ruleSheet (s : Settings) (r : Rule) : String :=
  match RuleSheet.ofCode? RuleSheet.all r.code with
  | none => ""
  | some sheet =>
    sheet.text (Severities.get Preset.recommended.severities r.code).text (s.severity r.code).text

/-- Explain a rule, or list all. -/
def runExplain (h : Host) (s : Settings) (args : List String) : Except Outcome Outcome := do
  let a ← readArguments h .explain args
  refuse h .explain a.operands.tail
  if a.has "--all" then return .success (ruleTable s)
  match a.operands.head? with
  | none =>
    return { Outcome.success ("Usage: " ++ Settings.toolName ++ " explain <RULE> or " ++
      Settings.toolName ++ " explain --all") with exitCode := 1 }
  | some word =>
    match Rule.find? word with
    | none => return .failure 1 ("Error: Unknown rule '" ++ word ++ "'.")
    | some r => return .success (ruleSheet s r)

/-- The meaning of a word that has to be one of several. -/
def choose {α : Type} (h : Host) (option : String) (all : List α) (word : α → String)
    (given : String) : Except Outcome α :=
  match all.find? fun a => word a = given with
  | some a => .ok a
  | none => .error (.wrongCall h .lint (.notOneOf option given (all.map word)))

/-- Lay one option of `lint` over the settings. A repeated option counts by its last value. -/
def overrule (h : Host) (a : Arguments) (s : Settings) (name : String) :
    Except Outcome Settings := do
  match name, a.value? name with
  | "--format", some word =>
    return { s with outputFormat := ← choose h name OutputFormat.all OutputFormat.word word }
  | "--color", some word =>
    return { s with color := ← choose h name ColorMode.all ColorMode.word word }
  | _, _ => return s

/-- Whether source lines are shown, by the last option that says so. -/
def showsSource (a : Arguments) (byDefault : Bool) : Bool :=
  match a.options.reverse.find? fun o => o.name = "--show-source" || o.name = "--no-show-source" with
  | some o => o.name = "--show-source"
  | none => byDefault

/-- The paths that operands name; each has to exist. -/
def readPaths (h : Host) (words : List String) : Except Outcome (List Path) :=
  match words.find? fun w => !(h.tree.status h.cwd w).toBool with
  | some w => .error (.wrongCall h .lint (.missingPath w))
  | none => .ok (if words = [] then [Path.ofString "."] else words.map Path.ofString)

/-- Look for findings and report them. -/
def runLint (h : Host) (v : Verbosity) (s : Settings) (args : List String) :
    Except Outcome Outcome := do
  let a ← readArguments h .lint args
  let s ← (a.options.map GivenOption.name).eraseDups.foldlM (overrule h a) s
  let paths ← readPaths h a.operands
  let s := { s with showSource := showsSource a s.showSource }
  let run := Run.ofPaths h.tree h.cwd s paths
  let report := Report.full s run.result
  return {
    exitCode := run.result.exitCode
    out := if s.color = .always then report ++ "\n" else Outcome.echoed report
    err := LogLine.render v (run.log h.seconds) }

/-- Run a command. -/
def runCommand (h : Host) (v : Verbosity) (s : Settings) (c : Command) (args : List String) :
    Outcome :=
  let ending := match c with
    | .config => runConfig h s args
    | .explain => runExplain h s args
    | .lint => runLint h v s args
    | .tool => .error {}
  match ending with
  | .ok o => o
  | .error o => o

/-- Load settings and run a command. -/
def runWith (h : Host) (g : Globals) (c : Command) (args : List String) : Ending :=
  let (log, loaded) := loadSettings h g.configPath
  let front := LogLine.render g.verbosity log
  match loaded with
  | .ok s => .exit ((runCommand h g.verbosity s c args).after front)
  | .error (_, .toolsShape type) => .brokenOff (.toolsShape type)
  | .error (path, e) =>
    .exit ((Outcome.failure 1 ("Error (" ++ path.text ++ "): " ++ e.message)).after front)

/-- A call of the tool. Without arguments it shows its help on the error stream. -/
def run (h : Host) (args : List String) : Ending :=
  if args = [] then .exit (.failure 2 (Command.tool.help h.program))
  else
    let request := do
      let (globals, words) ← readGlobals h args
      let (command, args) ← readCommand h words
      return (globals, command, args)
    match request with
    | .error o => .exit o
    | .ok (globals, command, args) => runWith h globals command args

end NodeLint.CommandLine
