import NodeLint.Path
import NodeLint.Severity

/-!
# Diagnostics

A diagnostic is one finding about one place of one file. Diagnostics are collected in the order
they are found, counted by severity on the way, and shown in the order of their places. Sorting
keeps the order of findings about one place.
-/

namespace NodeLint

/-- A place in a file, counted from one. The end is not always known. -/
structure Location where
  line : Int
  column : Int
  endLine : Option Int := none
  endColumn : Option Int := none
deriving Repr, DecidableEq

/-- One finding. The message is accompanied by its template and the values it was filled with. -/
structure Diagnostic where
  file : Path
  location : Location
  code : String
  message : String
  severity : Severity
  sourceLine : Option String := none
  messageId : Option String := none
  data : List (String × String) := []
deriving Repr, DecidableEq

namespace Diagnostic

/-- Whether one diagnostic may be shown before another: by file, line and column. -/
def notAfter (a b : Diagnostic) : Bool :=
  a.file.text < b.file.text ||
    (a.file.text = b.file.text && (a.location.line < b.location.line ||
      (a.location.line = b.location.line && a.location.column ≤ b.location.column)))

end Diagnostic

/-- How many diagnostics there are of each severity. -/
structure Tally where
  errors : Nat := 0
  warnings : Nat := 0
  off : Nat := 0
deriving Repr, DecidableEq

namespace Tally

/-- Count one more. -/
def add (t : Tally) : Severity → Tally
  | .error => { t with errors := t.errors + 1 }
  | .warn => { t with warnings := t.warnings + 1 }
  | .off => { t with off := t.off + 1 }

/-- The count of a severity. -/
def count (t : Tally) : Severity → Nat
  | .error => t.errors
  | .warn => t.warnings
  | .off => t.off

/-- Counting one severity adds to its own count only. -/
theorem count_add (t : Tally) (s s' : Severity) :
    (t.add s).count s' = t.count s' + if s = s' then 1 else 0 := by
  cases s <;> cases s' <;> rfl

end Tally

/-- All diagnostics of a run, with a running count. -/
structure Collection where
  items : List Diagnostic := []
  tally : Tally := {}
deriving Repr

namespace Collection

/-- No diagnostics. -/
def empty : Collection := {}

/-- Add one diagnostic at the end. -/
def add (c : Collection) (d : Diagnostic) : Collection :=
  ⟨c.items ++ [d], c.tally.add d.severity⟩

/-- Add diagnostics one after the other. -/
def addAll (c : Collection) (ds : List Diagnostic) : Collection :=
  ds.foldl add c

@[simp] theorem items_add (c : Collection) (d : Diagnostic) :
    (c.add d).items = c.items ++ [d] := rfl

/-- Diagnostics stay in the order they were added in. -/
@[simp] theorem items_addAll (c : Collection) (ds : List Diagnostic) :
    (c.addAll ds).items = c.items ++ ds := by
  induction ds generalizing c with
  | nil => simp [addAll]
  | cons d ds ih =>
    have step : c.addAll (d :: ds) = (c.add d).addAll ds := rfl
    rw [step, ih, items_add, List.append_assoc, List.singleton_append]

/-- The diagnostics in the order of their places. -/
def sorted (c : Collection) : List Diagnostic :=
  c.items.mergeSort Diagnostic.notAfter

/-- How many diagnostics have a severity. -/
def count (c : Collection) (s : Severity) : Nat := c.tally.count s

/-- Every diagnostic that is added counts once, for its own severity. -/
theorem count_addAll (c : Collection) (ds : List Diagnostic) (s : Severity) :
    (c.addAll ds).count s = c.count s + ds.countP fun d => d.severity = s := by
  induction ds generalizing c with
  | nil => rfl
  | cons d ds ih =>
    have step : c.addAll (d :: ds) = (c.add d).addAll ds := rfl
    have one : (c.add d).count s = c.count s + if d.severity = s then 1 else 0 :=
      Tally.count_add c.tally d.severity s
    rw [step, ih, one, List.countP_cons]
    simp only [decide_eq_true_eq]
    omega

/-- Whether there is an error. -/
def hasErrors (c : Collection) : Bool := c.count .error > 0

/-- The number of diagnostics. -/
def size (c : Collection) : Nat := c.items.length

end Collection
end NodeLint
