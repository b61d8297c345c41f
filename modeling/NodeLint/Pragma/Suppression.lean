import NodeLint.Pragma
import NodeLint.Pragma.StatementRange
import NodeLint.Diagnostic
import NodeLint.Source.File

/-!
# Suppression and its governance

Pragmas are sorted into three stores: codes for the whole file, codes for single lines, and codes
for ranges of lines. A pragma above no statement suppresses nothing and is dangling. What pragmas
may do is governed by the settings; each breach is an error of its own, and no pragma removes it.
-/

namespace NodeLint

open Source

/-- Limits on the use of pragmas. -/
structure Governance where
  requireReason : Bool := true
  disallow : List String := []
  maxPerFile : Option Int := none
deriving Repr, DecidableEq

/-- Whether diagnostics with a code may be suppressed. -/
def Governance.maySuppress (g : Governance) (code : String) : Bool := !g.disallow.contains code

/-- What the pragmas of a file suppress. -/
structure Suppressions where
  fileCodes : List String := []
  lineCodes : List (Nat × List String) := []
  ranges : List (Nat × Nat × List String) := []
  dangling : List Pragma := []

namespace Suppressions

/-- Take one more pragma into account. Without ranges, a pragma on a line of its own does
nothing. -/
def add (ranges : Option StatementRanges) (s : Suppressions) (p : Pragma) : Suppressions :=
  if p.isFileLevel then { s with fileCodes := s.fileCodes ++ p.codes }
  else if p.isInline then { s with lineCodes := s.lineCodes ++ [(p.line, p.codes)] }
  else match ranges with
    | none => s
    | some ranges =>
      match ranges.lastLine? (p.line + 1) with
      | none => { s with dangling := s.dangling ++ [p] }
      | some last => { s with ranges := s.ranges ++ [(p.line + 1, last, p.codes)] }

/-- What pragmas suppress in a file with these statements, if it has any. -/
def ofPragmas (tree : Option (List Stmt)) (ps : List Pragma) : Suppressions :=
  ps.foldl (add (tree.map StatementRanges.ofStmts)) {}

/-- Whether a diagnostic is suppressed. -/
def covers (s : Suppressions) (d : Diagnostic) : Bool :=
  s.fileCodes.contains d.code ||
    s.lineCodes.any (fun (line, codes) => (line : Int) = d.location.line && codes.contains d.code) ||
    s.ranges.any fun (first, last, codes) =>
      (first : Int) ≤ d.location.line && d.location.line ≤ (last : Int) && codes.contains d.code

end Suppressions

namespace Governance

/-- An error about pragmas. -/
def violation (file : SourceFile) (line : Nat) (code message : String) : Diagnostic where
  file := file.path
  location := ⟨line, 1, none, none⟩
  code := code
  message := message
  severity := .error
  sourceLine := file.lineAt line

/-- Pragmas without a reason. -/
def missingReasons (g : Governance) (file : SourceFile) (ps : List Pragma) : List Diagnostic :=
  if g.requireReason then
    (ps.filter fun p => p.reason = none).map fun p =>
      violation file p.line "IGN001" "Ignore pragma requires a reason (use 'because: ...')"
  else []

/-- Codes that may not be suppressed, pragma by pragma. -/
def disallowedCodes (g : Governance) (file : SourceFile) (ps : List Pragma) : List Diagnostic :=
  ps.flatMap fun p =>
    (p.codes.filter g.disallow.contains).map fun code =>
      violation file p.line "IGN002"
        ("Rule '" ++ code ++ "' cannot be ignored (disallowed by configuration)")

/-- More pragmas than a file may have. -/
def tooMany (g : Governance) (file : SourceFile) (ps : List Pragma) : List Diagnostic :=
  match g.maxPerFile with
  | none => []
  | some limit =>
    if (ps.length : Int) > limit then
      [violation file 1 "IGN003" ("File has " ++ toString ps.length ++
        " ignore directives, maximum allowed is " ++ toString limit)]
    else []

/-- Pragmas above no statement. -/
def deadPragmas (file : SourceFile) (dangling : List Pragma) : List Diagnostic :=
  dangling.map fun p =>
    violation file p.line "IGN004"
      "Ignore pragma is not directly above a statement and suppresses nothing"

/-- All breaches in a file. -/
def violations (g : Governance) (file : SourceFile) (ps dangling : List Pragma) :
    List Diagnostic :=
  g.missingReasons file ps ++ g.disallowedCodes file ps ++ g.tooMany file ps ++
    deadPragmas file dangling

/-- Drop the suppressed diagnostics of a file and put the breaches in front. -/
def apply (g : Governance) (file : SourceFile) (ds : List Diagnostic) : List Diagnostic :=
  match Pragma.read file.lines with
  | [] => ds
  | ps =>
    let s := Suppressions.ofPragmas file.tree.toOption ps
    g.violations file ps s.dangling ++
      ds.filter fun d => !g.maySuppress d.code || !s.covers d

end Governance
end NodeLint
