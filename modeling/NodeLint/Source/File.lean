import NodeLint.Source.Syntax
import NodeLint.Text.Utf8
import NodeLint.Path

/-!
# Source files

A source file is read once: its lines, and its statements or one syntax error. A file that cannot
be decoded has no lines; a text with a null character is not looked at any further.
-/

namespace NodeLint

open Source

/-- Why a file has no syntax tree. The line shown is none where no line of the file is to
blame. -/
structure SyntaxError where
  line : Nat
  column : Nat
  message : String
  sourceLine : Option String
deriving Repr, DecidableEq

/-- A source file as the checks see it. -/
structure SourceFile where
  path : Path
  lines : List String
  tree : Except SyntaxError (List Stmt)

namespace SourceFile

/-- The lines of a text by number, from one. -/
def lineIn (lines : List String) (line : Int) : Option String :=
  if 1 ≤ line then lines[(line - 1).toNat]? else none

/-- The line with a number, if there is one. -/
def lineAt (f : SourceFile) (line : Int) : Option String := lineIn f.lines line

/-- A file of which nothing could be read. -/
def unreadable (path : Path) (message : String) : SourceFile :=
  ⟨path, [], .error ⟨1, 1, message, none⟩⟩

/-- Read a text as the contents of a file. -/
def ofText (path : Path) (text : List Char) : SourceFile :=
  let lines := (Text.lines text).map String.ofList
  let tree : Except SyntaxError (List Stmt) :=
    if text.contains '\x00' then
      .error ⟨1, 1, "source code string cannot contain null bytes", none⟩
    else match parse text with
      | .ok stmts => .ok stmts
      | .error f => .error ⟨f.line, max 1 f.column, f.message, lineIn lines f.line⟩
  ⟨path, lines, tree⟩

/-- Read bytes as the contents of a file; line ends are unified before anything else. -/
def ofBytes (path : Path) (bytes : List UInt8) : SourceFile :=
  match Text.decodeUtf8 bytes with
  | .ok text => ofText path (Text.unifyNewlines text)
  | .error fault => unreadable path ("Encoding error: " ++ fault.message)

end SourceFile
end NodeLint
