import NodeLint.Discovery
import NodeLint.Log
import NodeLint.Rule.Check
import NodeLint.Settings

/-!
# Runs

A run looks at files one by one. A file that is not a program gives one error and nothing else: no
rule sees it, and no pragma in it counts. Every other file is checked by the rules that are on, and
then its pragmas are applied. A run fails if it finds an error; warnings do not count.
-/

namespace NodeLint

/-- Every rule with the check that belongs to it. -/
def Rule.checks : List (Rule × (Severity → SourceFile → List Diagnostic)) :=
  [(Rule.requireDecorator, Rule.check)]

/-- The code of syntax errors. -/
def syntaxCode : String := "SYN001"

/-- The diagnostic for a syntax error. -/
def SyntaxError.diagnostic (path : Path) (e : SyntaxError) : Diagnostic where
  file := path
  location := ⟨e.line, e.column, none, none⟩
  code := syntaxCode
  message := e.message
  severity := .error
  sourceLine := e.sourceLine

/-- Read the file at a path. -/
def FileTree.readSource (t : FileTree) (cwd path : Path) : SourceFile :=
  match t.read cwd path with
  | .ok bytes => SourceFile.ofBytes path bytes
  | .error fault => SourceFile.unreadable path ("Cannot read file: " ++ fault.message path)

namespace Settings

/-- What each rule that is on finds in a file, rule by rule. -/
def findings (s : Settings) (f : SourceFile) : List (Rule × List Diagnostic) :=
  (Rule.checks.filter fun (r, _) => s.isEnabled r.code).map fun (r, check) =>
    (r, check (s.severity r.code) f)

/-- The diagnostics of a file. -/
def lintFile (s : Settings) (f : SourceFile) : List Diagnostic :=
  match f.tree with
  | .error e => [e.diagnostic f.path]
  | .ok _ => s.governance.apply f ((s.findings f).flatMap Prod.snd)

/-- The diagnostics of a text as the contents of a file. -/
def lintText (s : Settings) (path : Path) (text : String) : List Diagnostic :=
  s.lintFile (SourceFile.ofText path text.toList)

end Settings

/-- What a run found. -/
structure RunResult where
  collection : Collection
  filesChecked : Nat

namespace RunResult

/-- The exit code of a run. -/
def exitCode (r : RunResult) : Nat := if r.collection.hasErrors then 1 else 0

end RunResult

/-- What a run looks at: the settings and the files, in order. -/
structure Run where
  settings : Settings
  dropped : List Path
  files : List SourceFile

namespace Run

/-- The run over the files that paths name. -/
def ofPaths (t : FileTree) (cwd : Path) (s : Settings) (paths : List Path) : Run :=
  let roots := Discovery.rootsOf cwd paths
  { settings := s
    dropped := Discovery.dropped t s roots
    files := (Discovery.selected t s roots).map (t.readSource cwd) }

/-- The result of a run. -/
def result (r : Run) : RunResult where
  collection := r.files.foldl (fun c f => c.addAll (r.settings.lintFile f)) Collection.empty
  filesChecked := r.files.length

/-! ## The log of a run -/

/-- The name a file uses for the tracked class. -/
def bindingLog (f : SourceFile) : List LogLine :=
  match f.tree with
  | .error _ => []
  | .ok stmts =>
    (Binding.find? Tracked.standard stmts).toList.map fun b =>
      ⟨.debug, .requireDecorator, f.path.text ++ ": " ++ b.source.module ++ "." ++
        b.source.symbol ++ " bound as " ++ Text.quoted b.localName⟩

/-- What is told about the rules that were run over a file. -/
def findingsLog (s : Settings) (f : SourceFile) : List LogLine :=
  (s.findings f).flatMap fun (r, found) =>
    bindingLog f ++ [⟨.debug, .runner, f.path.text ++ ": " ++ r.code ++ " produced " ++
      toString found.length ++ " diagnostics"⟩]

/-- What is told about one file. -/
def fileLog (s : Settings) (f : SourceFile) : List LogLine :=
  ⟨.debug, .runner, "Checking " ++ f.path.text⟩ ::
    match f.tree with
    | .error e => [⟨.debug, .runner, f.path.text ++ ": not analysed, " ++ e.message⟩]
    | .ok _ => findingsLog s f

/-- The log of a run that took some time, given in seconds. -/
def log (r : Run) (seconds : String) : List LogLine :=
  r.dropped.map (fun p => ⟨.debug, .scanner, "Excluded " ++ p.text⟩) ++
  [⟨.info, .runner, "Found " ++ toString r.files.length ++ " files to lint"⟩] ++
  r.files.flatMap (fileLog r.settings) ++
  [⟨.info, .runner, "Completed in " ++ seconds ++ "s"⟩]

end Run
end NodeLint
