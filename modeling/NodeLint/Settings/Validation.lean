import NodeLint.Settings
import NodeLint.Settings.Value
import NodeLint.Text.Quoted

/-!
# Validation of settings

Every setting is checked on its own. A bad value is replaced by the default and noted; checking
then goes on, so that all problems are reported together, in the fixed order of the settings.
-/

namespace NodeLint

/-- What can be wrong with settings. -/
inductive Problem where
  | unknownSetting (name : String)
  | badPreset
  | notPatterns (name : String)
  | notFlag (name : String)
  | notChoice (name : String) (allowed : List String)
  | notTable (name : String)
  | unknownRule (key : String)
  | ruleOptions (key : String) (options : List String)
  | ruleShape (key : String)
  | disallowShape
  | disallowEntries
  | disallowUnknown (codes : List String)
  | badLimit
deriving Repr, DecidableEq

/-- The words for a problem. -/
def Problem.message : Problem → String
  | .unknownSetting name => name ++ " is not a recognised setting"
  | .badPreset => "preset must be one of " ++ Text.quotedList Preset.names
  | .notPatterns name => name ++ " must be a list of glob strings"
  | .notFlag name => name ++ " must be a boolean"
  | .notChoice name allowed => name ++ " must be one of " ++ Text.quotedList allowed
  | .notTable name => name ++ " must be a table"
  | .unknownRule key => "rules." ++ key ++ " is not a known rule code"
  | .ruleOptions key options =>
    "rules." ++ key ++ " accepts no options, got " ++ Text.quotedList options
  | .ruleShape key => "rules." ++ key ++ " must be a string or a table"
  | .disallowShape => "ignores.disallow must be a list"
  | .disallowEntries => "ignores.disallow entries must be strings"
  | .disallowUnknown codes =>
    "ignores.disallow contains unknown rule codes: " ++ Text.quotedList codes
  | .badLimit => "ignores.max_per_file must be a non-negative integer"

/-- A value together with the problems found on the way to it. -/
structure Checked (α : Type) where
  value : α
  problems : List Problem := []
deriving Repr

namespace Settings

/-- The names of the settings. -/
def knownSettings : List String :=
  ["preset", "include", "exclude", "output_format", "show_source", "color", "rules", "ignores"]

/-- The names of the settings about pragmas. -/
def knownIgnores : List String := ["require_reason", "disallow", "max_per_file"]

/-- The settings that are not known, sorted. -/
def unknownSettings (front : String) (known : List String) (t : Table) : List Problem :=
  (Text.sortedSet (t.keys.filter fun k => !known.contains k)).map fun k =>
    .unknownSetting (front ++ k)

/-- A list of patterns. -/
def checkPatterns (name : String) (fallback : List String) : Option Value → Checked (List String)
  | none => ⟨fallback, []⟩
  | some v =>
    match v.texts? with
    | some ps => ⟨ps, []⟩
    | none => ⟨fallback, [.notPatterns name]⟩

/-- A flag. -/
def checkFlag (name : String) (fallback : Bool) : Option Value → Checked Bool
  | none => ⟨fallback, []⟩
  | some (.bool b) => ⟨b, []⟩
  | some _ => ⟨fallback, [.notFlag name]⟩

/-- One of several words. -/
def checkChoice {α : Type} (name : String) (all : List α) (word : α → String) (fallback : α) :
    Option Value → Checked α
  | none => ⟨fallback, []⟩
  | some v =>
    match v.text?.bind fun s => all.find? fun a => word a = s with
    | some a => ⟨a, []⟩
    | none => ⟨fallback, [.notChoice name (all.map word)]⟩

/-- A table. -/
def checkTable (name : String) : Option Value → Checked Table
  | none => ⟨[], []⟩
  | some (.table t) => ⟨t, []⟩
  | some _ => ⟨[], [.notTable name]⟩

/-- The name of a preset. -/
def checkPreset : Option Value → Checked Preset
  | none => ⟨.recommended, []⟩
  | some v =>
    match v.text?.bind Preset.ofName? with
    | some p => ⟨p, []⟩
    | none => ⟨.recommended, [.badPreset]⟩

/-- A severity, written in any case. -/
def checkSeverity (name : String) (v : Value) : Checked (Option Severity) :=
  match v.text?.bind fun s => Severity.ofText? (Text.lower s) with
  | some s => ⟨some s, []⟩
  | none => ⟨none, [.notChoice name (Severity.all.map Severity.text)]⟩

/-- The severity that an entry gives a known rule: a word, or a table that holds nothing else. -/
def checkRuleValue (key : String) (v : Value) : Checked (Option Severity) :=
  match v with
  | .table t =>
    let extra := Text.sortedSet (Table.keys t |>.filter (· ≠ "severity"))
    let noted := if extra = [] then [] else [.ruleOptions key extra]
    match Table.get? t "severity" with
    | none => ⟨none, noted⟩
    | some v =>
      let c := checkSeverity ("rules." ++ key ++ ".severity") v
      ⟨c.value, noted ++ c.problems⟩
  | .str _ => checkSeverity ("rules." ++ key) v
  | _ => ⟨none, [.ruleShape key]⟩

/-- One entry of the table of rules. -/
def checkRule (key : String) (v : Value) : Checked Severities :=
  let code := Text.upper key
  if Rule.codes.contains code then
    let c := checkRuleValue key v
    ⟨(c.value.map fun s => (code, s)).toList, c.problems⟩
  else ⟨[], [.unknownRule key]⟩

/-- The severities of the table of rules, entry by entry. -/
def checkRules : Table → Checked Severities
  | [] => ⟨[], []⟩
  | (key, v) :: rest =>
    let first := checkRule key v
    let others := checkRules rest
    ⟨first.value ++ others.value, first.problems ++ others.problems⟩

/-- The codes that may not be suppressed. -/
def checkDisallow : Option Value → Checked (List String)
  | none => ⟨[], []⟩
  | some (.list items) =>
    let texts := items.filterMap Value.text?
    let isKnown (s : String) : Bool := Rule.codes.contains (Text.upper s)
    let unknown := texts.filter fun s => !isKnown s
    ⟨Text.sortedSet ((texts.filter isKnown).map Text.upper),
      (if texts.length = items.length then [] else [.disallowEntries]) ++
      (if unknown = [] then [] else [.disallowUnknown unknown])⟩
  | some _ => ⟨[], [.disallowShape]⟩

/-- The most pragmas a file may have. -/
def checkLimit : Option Value → Checked (Option Int)
  | none => ⟨none, []⟩
  | some .null => ⟨none, []⟩
  | some (.int n) => if 0 ≤ n then ⟨some n, []⟩ else ⟨none, [.badLimit]⟩
  | some _ => ⟨none, [.badLimit]⟩

/-- The settings about pragmas. -/
def checkIgnores (t : Table) : Checked Governance :=
  let disallow := checkDisallow (t.get? "disallow")
  let limit := checkLimit (t.get? "max_per_file")
  let reason := checkFlag "ignores.require_reason" true (t.get? "require_reason")
  ⟨⟨reason.value, disallow.value, limit.value⟩,
    unknownSettings "ignores." knownIgnores t ++ disallow.problems ++ limit.problems ++
      reason.problems⟩

/-- All settings of a table. -/
def check (configPath : Option Path) (t : Table) : Checked Settings :=
  let preset := checkPreset (t.get? "preset")
  let included := checkPatterns "include" defaultIncludes (t.get? "include")
  let excluded := checkPatterns "exclude" defaultExcludes (t.get? "exclude")
  let format := checkChoice "output_format" OutputFormat.all OutputFormat.word .text
    (t.get? "output_format")
  let showSource := checkFlag "show_source" true (t.get? "show_source")
  let color := checkChoice "color" ColorMode.all ColorMode.word .auto (t.get? "color")
  let rulesTable := checkTable "rules" (t.get? "rules")
  let rules := checkRules rulesTable.value
  let ignoresTable := checkTable "ignores" (t.get? "ignores")
  let ignores := checkIgnores ignoresTable.value
  ⟨{ configPath := configPath
     included := included.value
     excluded := excluded.value
     outputFormat := format.value
     showSource := showSource.value
     color := color.value
     preset := preset.value
     severities := Severities.overlay preset.value.severities rules.value
     governance := ignores.value },
    unknownSettings "" knownSettings t ++ preset.problems ++ included.problems ++
      excluded.problems ++ format.problems ++ showSource.problems ++ color.problems ++
      rulesTable.problems ++ rules.problems ++ ignoresTable.problems ++ ignores.problems⟩

/-- The settings of a table, or all that is wrong with it. -/
def ofTable (configPath : Option Path) (t : Table) : Except (List Problem) Settings :=
  let c := check configPath t
  if c.problems = [] then .ok c.value else .error c.problems

end Settings
end NodeLint
