import NodeLint.Severity
import NodeLint.Rule
import NodeLint.Path
import NodeLint.Pragma.Suppression

/-!
# Settings

The resolved settings of a run. A preset gives each rule a severity, and explicit severities are
laid over it. A code that has no severity is off.
-/

namespace NodeLint

/-- How findings are written. -/
inductive OutputFormat where
  | text
  | json
deriving Repr, DecidableEq

namespace OutputFormat

def all : List OutputFormat := [.text, .json]

/-- The word for a format. -/
def word : OutputFormat → String
  | .text => "text"
  | .json => "json"

end OutputFormat

/-- When output is coloured. -/
inductive ColorMode where
  | auto
  | always
  | never
deriving Repr, DecidableEq

namespace ColorMode

def all : List ColorMode := [.auto, .always, .never]

/-- The word for a mode. -/
def word : ColorMode → String
  | .auto => "auto"
  | .always => "always"
  | .never => "never"

end ColorMode

/-- Named sets of severities. -/
inductive Preset where
  | recommended
  | quiet
deriving Repr, DecidableEq

namespace Preset

def all : List Preset := [.recommended, .quiet]

/-- The name of a preset. -/
def name : Preset → String
  | .recommended => "recommended"
  | .quiet => "none"

/-- The preset with a name. -/
def ofName? (s : String) : Option Preset := all.find? fun p => p.name = s

/-- The names of all presets, sorted. -/
def names : List String := Text.sortedSet (all.map name)

/-- The severities a preset gives. -/
def severities : Preset → List (String × Severity)
  | .recommended => [(Rule.requireDecorator.code, .error)]
  | .quiet => [(Rule.requireDecorator.code, .off)]

end Preset

/-- Severities by rule code. -/
abbrev Severities := List (String × Severity)

namespace Severities

/-- Give a code a severity, in place of the one it has. -/
def set : Severities → String → Severity → Severities
  | [], code, s => [(code, s)]
  | (c, old) :: rest, code, s => if c = code then (c, s) :: rest else (c, old) :: set rest code s

/-- The severity that was set last is the one found. -/
theorem lookup_set (ss : Severities) (code other : String) (s : Severity) :
    (set ss code s).lookup other = if other = code then some s else ss.lookup other := by
  induction ss with
  | nil =>
    by_cases h : other = code
    · simp [set, h]
    · have differs : (other == code) = false := by simpa using h
      simp [set, List.lookup_cons, differs, h]
  | cons p ss ih =>
    obtain ⟨c, old⟩ := p
    by_cases hc : c = code
    · subst hc
      by_cases h : other = c
      · simp [set, h]
      · have differs : (other == c) = false := by simpa using h
        simp [set, List.lookup_cons, differs, h]
    · by_cases h : other = c
      · subst h
        simp [set, hc]
      · have differs : (other == c) = false := by simpa using h
        simp [set, hc, List.lookup_cons, differs, ih]

/-- Lay severities over others. -/
def overlay (base top : Severities) : Severities :=
  top.foldl (fun acc (code, s) => set acc code s) base

/-- The severity of a code. -/
def get (ss : Severities) (code : String) : Severity := (ss.lookup code).getD .off

end Severities

/-- Directories and files that are skipped unless the settings say otherwise. -/
def defaultExcludes : List String :=
  ["**/__pycache__/**", "**/.*", "**/.git/**", "**/.venv/**", "**/venv/**", "**/env/**",
   "build/**", "dist/**", "*.egg-info/**"]

/-- Files that are looked at unless the settings say otherwise. -/
def defaultIncludes : List String := ["**/*.py"]

/-- The settings of a run. -/
structure Settings where
  configPath : Option Path := none
  included : List String := defaultIncludes
  excluded : List String := defaultExcludes
  outputFormat : OutputFormat := .text
  showSource : Bool := true
  color : ColorMode := .auto
  preset : Preset := .recommended
  severities : Severities := Preset.recommended.severities
  governance : Governance := {}
deriving Repr, DecidableEq

namespace Settings

/-- The severity of a rule code. -/
def severity (s : Settings) (code : String) : Severity := s.severities.get code

/-- Whether a rule is run. -/
def isEnabled (s : Settings) (code : String) : Bool := s.severity code ≠ .off

/-- The rules that are run. -/
def enabledRules (s : Settings) : List Rule := Rule.all.filter fun r => s.isEnabled r.code

/-- The settings with the severities of a preset and others laid over them. -/
def ofPreset (preset : Preset) (top : Severities) : Settings :=
  { preset := preset, severities := Severities.overlay preset.severities top }

end Settings
end NodeLint
