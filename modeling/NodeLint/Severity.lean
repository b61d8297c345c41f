/-!
# Severities
-/

namespace NodeLint

/-- How much a finding counts; a rule that is off reports nothing. -/
inductive Severity where
  | error
  | warn
  | off
deriving Repr, DecidableEq

namespace Severity

/-- All severities, from the strongest. -/
def all : List Severity := [.error, .warn, .off]

/-- The word for a severity. -/
def text : Severity → String
  | .error => "error"
  | .warn => "warn"
  | .off => "off"

/-- The severity with a word. -/
def ofText? (s : String) : Option Severity := all.find? fun v => v.text = s

/-- The word for a severity reads back as that severity, and no other word does. -/
theorem ofText?_eq_some_iff (s : String) (v : Severity) : ofText? s = some v ↔ v.text = s := by
  constructor
  · intro found
    simpa using List.find?_some found
  · rintro rfl
    cases v <;> decide

/-- The word for a severity in capitals. -/
def label : Severity → String
  | .error => "ERROR"
  | .warn => "WARN"
  | .off => "OFF"

end Severity
end NodeLint
