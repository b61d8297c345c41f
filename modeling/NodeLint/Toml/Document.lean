import NodeLint.Settings.Value
import NodeLint.Text.Quoted

/-!
# Documents under construction

A document grows statement by statement. Besides its tables it keeps marks on key paths: a frozen
path was written as an inline value and nothing may be added below it, and a declared path may not
be declared again. Paths opened by dotted keys are declared when the next header comes.
-/

namespace NodeLint.Toml

/-- Marks on key paths. -/
inductive Mark where
  /-- The path and everything below it is immutable. -/
  | frozen
  /-- The path has been declared. -/
  | declared
deriving Repr, DecidableEq

/-- The marks of a document. -/
structure Marks where
  entries : List (List String × Mark)

namespace Marks

/-- Whether a path carries a mark; below a frozen path everything is frozen. -/
def has (m : Marks) (path : List String) : Mark → Bool
  | .declared => m.entries.any fun (p, mark) => mark = .declared && p = path
  | .frozen => m.entries.any fun (p, mark) => mark = .frozen && p.isPrefixOf path

/-- Mark a path. -/
def add (m : Marks) (path : List String) (mark : Mark) : Marks := ⟨(path, mark) :: m.entries⟩

/-- Remove the marks of a path and of all below it. -/
def clear (m : Marks) (path : List String) : Marks :=
  ⟨m.entries.filter fun (p, _) => !path.isPrefixOf p⟩

end Marks

/-- Change the table at the end of a path, creating tables on the way. With `throughLists` a list
stands for its last item. There is none behind any other value. -/
def updateAt (throughLists : Bool) (change : Table → Option Table) :
    (path : List String) → Table → Option Table
  | [], t => change t
  | k :: path, t =>
    match t.get? k with
    | none => (updateAt throughLists change path []).map fun sub => t.set k (.table sub)
    | some (.table sub) => (updateAt throughLists change path sub).map fun sub => t.set k (.table sub)
    | some (.list items) =>
      if throughLists then
        match items.getLast? with
        | some (.table sub) =>
          (updateAt throughLists change path sub).map fun sub =>
            t.set k (.list (items.dropLast ++ [.table sub]))
        | _ => none
      else none
    | some _ => none

/-- Add an empty table to the list under a key, or start such a list. -/
def appendTable (key : String) (t : Table) : Option Table :=
  match t.get? key with
  | none => some (t.set key (.list [.table []]))
  | some (.list items) => some (t.set key (.list (items ++ [.table []])))
  | some _ => none

/-- Put a value under a key that is not taken. -/
def insertNew (key : String) (v : Value) (t : Table) : Option Table :=
  match t.get? key with
  | none => some (t.set key v)
  | some _ => none

/-- A document under construction: its content, its marks, the marks to be set at the next
header, and the path of the current header. -/
structure Document where
  content : Table := []
  marks : Marks := ⟨[]⟩
  pending : List (List String) := []
  header : List String := []

namespace Document

/-- Set the marks that were waiting for a header. -/
def settle (d : Document) : Document :=
  { d with
    marks := d.pending.foldl (fun m path => m.add path .declared) d.marks
    pending := [] }

/-- Declare a table, which becomes the current one. -/
def declareTable (d : Document) (path : List String) : Except String Document :=
  if d.marks.has path .declared || d.marks.has path .frozen then
    .error ("Cannot declare " ++ Text.quotedTuple path ++ " twice")
  else match updateAt true some path d.content with
    | some content =>
      .ok { d with content := content, marks := d.marks.add path .declared, header := path }
    | none => .error "Cannot overwrite a value"

/-- Declare one more table of a list of tables, which becomes the current one. -/
def declareItem (d : Document) (path : List String) : Except String Document :=
  if d.marks.has path .frozen then
    .error ("Cannot mutate immutable namespace " ++ Text.quotedTuple path)
  else match updateAt true (appendTable (path.getLast?.getD "")) path.dropLast d.content with
    | some content =>
      .ok { d with
        content := content
        marks := (d.marks.clear path).add path .declared
        header := path }
    | none => .error "Cannot overwrite a value"

/-- The paths that a dotted key opens below a header. -/
def openedPaths (header key : List String) : List (List String) :=
  ((List.range key.length).drop 1).map fun n => header ++ key.take n

/-- Whether a value is written inline and so cannot be added to. -/
def isInline : Value → Bool
  | .table _ => true
  | .list _ => true
  | _ => false

/-- Put a value under a key of the current table. -/
def assign (d : Document) (key : List String) (v : Value) : Except String Document :=
  let opened := openedPaths d.header key
  match opened.find? fun path => d.marks.has path .declared with
  | some path => .error ("Cannot redefine namespace " ++ Text.quotedTuple path)
  | none =>
    let parent := d.header ++ key.dropLast
    if parent ≠ [] && d.marks.has parent .frozen then
      .error ("Cannot mutate immutable namespace " ++ Text.quotedTuple parent)
    else match updateAt true (insertNew (key.getLast?.getD "") v) parent d.content with
      | none => .error "Cannot overwrite a value"
      | some content =>
        .ok { d with
          content := content
          marks := if isInline v then d.marks.add (d.header ++ key) .frozen else d.marks
          pending := d.pending ++ opened }

end Document
end NodeLint.Toml
