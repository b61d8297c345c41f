import NodeLint.Run
import NodeLint.Text.Ansi
import NodeLint.Text.Json

/-!
# Reports

The findings of a run in print. As text, each diagnostic has a headline and, if wanted, the line it
is about with a caret below its column and an empty line; a summary and the number of files follow.
As JSON, a report is one list of objects and nothing else. Both show diagnostics in the order of
their places.
-/

namespace NodeLint

namespace Severity

/-- The colour of a severity. -/
def colour? : Severity → Option Text.Colour
  | .error => some .red
  | .warn => some .yellow
  | .off => none

end Severity

namespace Report

/-- The headline of a diagnostic. -/
def headline (isStyled : Bool) (d : Diagnostic) : String :=
  let label := d.severity.label
  d.file.text ++ ":" ++ toString d.location.line ++ ":" ++ toString d.location.column ++ ": " ++
    (if isStyled then Text.styled d.severity.colour? label else label) ++
    " [" ++ d.code ++ "] " ++ d.message

/-- A run of spaces. -/
def spaces (n : Nat) : String := String.ofList (List.replicate n ' ')

/-- The line that a diagnostic is about, and a caret below its column. -/
def snippet (d : Diagnostic) : List String :=
  match d.sourceLine with
  | none => []
  | some line =>
    ["    " ++ line, "    " ++ spaces (d.location.column - 1).toNat ++ "^", ""]

/-- The lines for a diagnostic. -/
def lines (s : Settings) (d : Diagnostic) : List String :=
  headline (s.color ≠ .never) d :: if s.showSource then snippet d else []

/-- Diagnostics as text. -/
def text (s : Settings) (c : Collection) : String :=
  Text.join "\n" (c.sorted.flatMap (lines s))

/-- A number in JSON, if there is one. -/
def jsonInt? : Option Int → Json
  | none => .null
  | some n => .int n

/-- A diagnostic in JSON. -/
def object (withSource : Bool) (d : Diagnostic) : Json :=
  .obj ([
    ("file", .str d.file.text),
    ("line", .int d.location.line),
    ("column", .int d.location.column),
    ("end_line", jsonInt? d.location.endLine),
    ("end_column", jsonInt? d.location.endColumn),
    ("code", .str d.code),
    ("severity", .str d.severity.text),
    ("message", .str d.message),
    ("message_id", Json.ofString? d.messageId),
    ("data", .obj (d.data.map fun (k, v) => (k, .str v)))] ++
    if withSource then [("source_line", Json.ofString? d.sourceLine)] else [])

/-- Diagnostics as JSON text. -/
def json (s : Settings) (c : Collection) : String :=
  (Json.arr (c.sorted.map (object s.showSource))).render

/-- Diagnostics in the format that the settings ask for. -/
def body (s : Settings) (c : Collection) : String :=
  match s.outputFormat with
  | .text => text s c
  | .json => json s c

/-- A number of things, with the plural where it is due. -/
def counted (n : Nat) (thing : String) : String :=
  toString n ++ " " ++ thing ++ if n = 1 then "" else "s"

/-- The number of errors and warnings in words; what there is none of is left out. -/
def summary (c : Collection) : String :=
  let parts := [(c.count .error, "error"), (c.count .warn, "warning")].filterMap fun (n, thing) =>
    if n > 0 then some (counted n thing) else none
  if parts = [] then "No issues found." else "Found " ++ Text.join ", " parts ++ "."

/-- The whole report of a run. -/
def full (s : Settings) (r : RunResult) : String :=
  let body := body s r.collection
  match s.outputFormat with
  | .json => body
  | .text =>
    Text.join "\n" ((if body = "" then [] else [body]) ++
      [summary r.collection, "Checked " ++ counted r.filesChecked "file" ++ "."])

end Report
end NodeLint
