import NodeLint.Settings.Load
import NodeLint.Text.Json

/-!
# The resolved settings in print
-/

namespace NodeLint.Settings

/-- A list of texts in JSON. -/
def jsonTexts (ss : List String) : Json := .arr (ss.map .str)

/-- The severities of all rules in JSON. -/
def jsonRules (s : Settings) : Json :=
  .obj ((Text.sortedSet Rule.codes).map fun code => (code, .str (s.severity code).text))

/-- The settings in groups. -/
def report (s : Settings) : Json :=
  .obj [
    ("config_path", Json.ofString? (s.configPath.map Path.text)),
    ("preset", .str s.preset.name),
    ("rules", s.jsonRules),
    ("files", .obj [("include", jsonTexts s.included), ("exclude", jsonTexts s.excluded)]),
    ("output", .obj [
      ("format", .str s.outputFormat.word),
      ("color", .str s.color.word),
      ("show_source", .bool s.showSource)]),
    ("ignores", .obj [
      ("require_reason", .bool s.governance.requireReason),
      ("disallow", jsonTexts (Text.sortedSet s.governance.disallow)),
      ("max_per_file", match s.governance.maxPerFile with
        | none => .null
        | some n => .int n)])]

/-- The settings as JSON text. -/
def jsonText (s : Settings) : String := s.report.render

/-- A text, or a dash for none. -/
def orDash (s : String) : String := if s = "" then "-" else s

/-- The name of the rule with a code. -/
def ruleName (code : String) : String :=
  ((Rule.all.find? fun r => r.code = code).map Rule.name).getD ""

/-- The settings as lines of text. -/
def text (s : Settings) : String :=
  let source := (s.configPath.map Path.text).getD "built-in defaults"
  let g := s.governance
  Text.join "\n" ([
    toolName ++ " configuration (" ++ source ++ ")",
    "",
    "Preset: " ++ s.preset.name,
    "Rules:"] ++
    (Text.sortedSet Rule.codes).map (fun code =>
      "  " ++ code ++ " (" ++ ruleName code ++ "): " ++ (s.severity code).text) ++
    ["Files:",
    "  include " ++ Text.join " " s.included,
    "  exclude " ++ Text.join " " s.excluded,
    "Output: " ++ s.outputFormat.word ++ ", color " ++ s.color.word ++ ", " ++
      (if s.showSource then "with source" else "no source"),
    "Ignore pragmas:",
    "  reason required: " ++ (if g.requireReason then "yes" else "no"),
    "  never suppress: " ++ orDash (Text.join ", " (Text.sortedSet g.disallow)),
    "  per-file limit: " ++ (match g.maxPerFile with
      | none => "-"
      | some n => toString n)])

end NodeLint.Settings
