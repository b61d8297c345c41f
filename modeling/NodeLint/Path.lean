import NodeLint.Text.Lines
import NodeLint.Text.Words

/-!
# Paths

A path is a sequence of names below nothing, below the root, or below the root written with two
slashes. Empty names and single dots are not kept, double dots are. Paths are compared name by
name; they are shown with single slashes.
-/

namespace NodeLint

/-- What a path starts from. -/
inductive Anchor where
  | relative
  | root
  | doubleRoot
deriving Repr, DecidableEq

/-- A path. -/
structure Path where
  anchor : Anchor
  parts : List String
deriving Repr, DecidableEq

namespace Path

/-- The names of a path text. -/
def names (cs : List Char) : List String :=
  ((Text.pieces '/' cs).filter fun p => p ≠ [] && p ≠ ['.']).map String.ofList

/-- The anchor of a path text: exactly two slashes in front stay two. -/
def anchorOf : List Char → Anchor
  | '/' :: '/' :: '/' :: _ => .root
  | '/' :: '/' :: _ => .doubleRoot
  | '/' :: _ => .root
  | _ => .relative

/-- Read a path. -/
def ofString (s : String) : Path := ⟨anchorOf s.toList, names s.toList⟩

/-- The text of an anchor. -/
def anchorText : Anchor → String
  | .relative => ""
  | .root => "/"
  | .doubleRoot => "//"

/-- The text of a path; the empty path is a dot. -/
def text (p : Path) : String :=
  match p.anchor, p.parts with
  | .relative, [] => "."
  | a, parts => anchorText a ++ Text.join "/" parts

instance : ToString Path := ⟨text⟩

/-- The path below the root with these names. -/
def absolute (parts : List String) : Path := ⟨.root, parts⟩

/-- The directory that holds a path; the top is its own. -/
def parent (p : Path) : Path := { p with parts := p.parts.dropLast }

/-- The last name of a path. -/
def name (p : Path) : String := p.parts.getLast?.getD ""

/-- A path below a directory; an absolute path stays itself. -/
def below (base p : Path) : Path :=
  if p.anchor = .relative then { base with parts := base.parts ++ p.parts } else p

/-- What is left of a path below a base. -/
def relativeTo? (p base : Path) : Option Path :=
  if p.anchor = base.anchor && base.parts.isPrefixOf p.parts then
    some ⟨.relative, p.parts.drop base.parts.length⟩
  else none

/-- Whether a path is a base or lies below it. -/
def isBelow (p base : Path) : Bool := (p.relativeTo? base).isSome

/-- Follow double dots; above the top is the top. -/
def resolveParts (parts : List String) : List String :=
  (parts.foldl (fun done part => if part = ".." then done.tail else part :: done) []).reverse

/-- The path without double dots, taken from a working directory. -/
def resolve (cwd p : Path) : Path := ⟨.root, resolveParts (below cwd p).parts⟩

/-- The fronts of a list of names, from none of them to all. -/
def fronts (parts : List String) : List (List String) :=
  (List.range (parts.length + 1)).map parts.take

/-- Whether a file name ends in `.py` and has something before it. -/
def isSourceName (name : String) : Bool :=
  Text.endsWith name ".py" && name.toList.length > 3

/-- Order of paths by their names. -/
def le (p q : Path) : Bool := decide (List.le p.parts q.parts)

end Path
end NodeLint
