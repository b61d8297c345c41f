import NodeLint.FileTree
import NodeLint.Settings.Validation
import NodeLint.Toml.Reader
import NodeLint.Text.Utf8

/-!
# Loading settings

Settings stand in the table `tool.graphpc-lint` of a document, which is the file that was named or
the nearest `pyproject.toml` from the working directory upwards. A document without the table gives
the default settings; the path of the document is recorded all the same.
-/

namespace NodeLint.Settings

/-- The name this tool goes by. -/
def toolName : String := "graphpc-lint"

/-- Why settings cannot be loaded. -/
inductive LoadError where
  /-- The document cannot be read, or is not text. -/
  | unreadable (reason : String)
  /-- The document is malformed. -/
  | invalid (reason : String)
  /-- The table of this tool is no table. -/
  | notTable
  /-- The settings are wrong. -/
  | problems (found : List Problem)
  /-- The table of all tools is no table. -/
  | toolsShape (type : String)
deriving Repr, DecidableEq

namespace LoadError

/-- The words for a load error. -/
def message : LoadError → String
  | .unreadable reason => "Cannot read config file: " ++ reason
  | .invalid reason => "Invalid TOML: " ++ reason
  | .notTable => "[tool." ++ toolName ++ "] must be a table"
  | .problems found =>
    "Configuration errors:\n" ++ Text.join "\n" (found.map fun p => "  - " ++ p.message)
  | .toolsShape type => "'" ++ type ++ "' object has no attribute 'get'"

/-- The problems of a load error, one by one. -/
def found : LoadError → List Problem
  | .problems found => found
  | _ => []

end LoadError

/-- The name of the file that is looked for. -/
def documentName : String := "pyproject.toml"

/-- A directory and those it stands in, from the bottom up. -/
def upwards (p : Path) : List Path := (Path.fronts p.parts).reverse.map Path.absolute

/-- The nearest document at or above a directory. -/
def findDocument? (t : FileTree) (start : Path) : Option Path :=
  ((upwards start).map fun d => d.below (Path.ofString documentName)).find? fun p =>
    t.isFile p.parts

/-- The text of bytes, with line ends unified. -/
def decode (bytes : List UInt8) : Except LoadError (List Char) :=
  match Text.decodeUtf8 bytes with
  | .ok text => .ok (Text.unifyNewlines text)
  | .error fault => .error (.unreadable fault.message)

/-- The document that a text holds. -/
def parseDocument (text : List Char) : Except LoadError Table :=
  match Toml.parse text with
  | .ok document => .ok document
  | .error reason => .error (.invalid reason)

/-- The table of this tool in a document; a table that is not there is empty. -/
def sectionOf (document : Table) : Except LoadError Table :=
  match Table.get? document "tool" with
  | none => .ok []
  | some (.table tools) =>
    match Table.get? tools toolName with
    | none => .ok []
    | some (.table settings) => .ok settings
    | some _ => .error .notTable
  | some v => .error (.toolsShape v.typeName)

/-- The table of this tool in the document at a path. -/
def readSection (t : FileTree) (cwd path : Path) : Except LoadError Table := do
  let bytes ← match t.read cwd path with
    | .ok bytes => pure bytes
    | .error fault => throw (.unreadable (fault.message path))
  let text ← decode bytes
  let document ← parseDocument text
  sectionOf document

/-- The settings of a table that was read from a path. -/
def resolve (path : Path) (settings : Table) : Except LoadError Settings :=
  match ofTable (some path) settings with
  | .ok s => .ok s
  | .error found => .error (.problems found)

/-- Load the settings of the document at a path. -/
def load (t : FileTree) (cwd path : Path) : Except LoadError Settings := do
  let settings ← readSection t cwd path
  resolve path settings

end NodeLint.Settings
