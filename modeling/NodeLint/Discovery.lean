import NodeLint.FileTree
import NodeLint.Glob
import NodeLint.Settings
import NodeLint.Text.Words

/-!
# Discovery of source files

A run starts from roots. A root that is a file is taken if its name is that of a source file; a
root that is a directory gives all files below it whose names end in `.py`. Each file is measured
against the patterns by its path below its base: the first root that holds it. Exclusion wins over
inclusion. A file is selected once, and files are sorted by their names from the top.
-/

namespace NodeLint.Discovery

/-- The path of a file as the patterns see it: below its base, or in full if it is not below. -/
def shownTo (base file : Path) : String := ((file.relativeTo? base).getD file).text

/-- Whether one of several patterns accepts a file. -/
def matchesAny (patterns : List String) (base file : Path) : Bool :=
  patterns.any fun p => Glob.accepts p (shownTo base file)

/-- Whether a name in a directory is taken for a source file. -/
def hasSourceEnding (name : String) : Bool := Text.endsWith name ".py"

/-- The source files at or below a root. -/
def collect (t : FileTree) (root : Path) : List Path :=
  if t.isFile root.parts then
    if Path.isSourceName root.name then [root] else []
  else if t.isDirectory root.parts then
    ((t.filesBelow root.parts).filter fun q => hasSourceEnding (q.getLast?.getD "")).map
      Path.absolute
  else []

/-- Whether a root holds a file. -/
def holds (t : FileTree) (file root : Path) : Bool :=
  if t.leadsToFile root then file = root else file.isBelow root

/-- The directory that patterns are measured from: the first root that holds the file, or where
the file stands. -/
def baseFor (t : FileTree) (roots : List Path) (file : Path) : Path :=
  match roots.find? (holds t file) with
  | some root => if t.leadsToFile root then root.parent else root
  | none => file.parent

/-- Whether a file is excluded. -/
def isExcluded (t : FileTree) (s : Settings) (roots : List Path) (file : Path) : Bool :=
  matchesAny s.excluded (baseFor t roots file) file

/-- Whether a file is included. -/
def isIncluded (t : FileTree) (s : Settings) (roots : List Path) (file : Path) : Bool :=
  matchesAny s.included (baseFor t roots file) file

/-- All source files at or below the roots; a file below two roots comes twice. -/
def candidates (t : FileTree) (roots : List Path) : List Path := roots.flatMap (collect t)

/-- The files that exclusion drops, as often as they come up, by their text. -/
def dropped (t : FileTree) (s : Settings) (roots : List Path) : List Path :=
  ((candidates t roots).filter (isExcluded t s roots)).mergeSort fun p q => p.text ≤ q.text

/-- The files of a run, each once and in order. -/
def selected (t : FileTree) (s : Settings) (roots : List Path) : List Path :=
  ((candidates t roots).filter fun f =>
    !isExcluded t s roots f && isIncluded t s roots f).eraseDups.mergeSort Path.le

/-- The roots that paths name, from a working directory. -/
def rootsOf (cwd : Path) (paths : List Path) : List Path := paths.map (Path.resolve cwd)

end NodeLint.Discovery
