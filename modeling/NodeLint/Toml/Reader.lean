import NodeLint.Toml.Scalar
import NodeLint.Toml.Text
import NodeLint.Toml.Document

/-!
# Reading a configuration document

One statement a line: a key with its value, the header of a table, or the header of one more table
of a list. Arrays and inline tables nest. The first fault stops the reading and is reported with
the line and column where the reader gave up.
-/

namespace NodeLint.Toml

/-- Put a value into an inline table under construction. -/
def insertInline (marks : Marks) (t : Table) (key : List String) (v : Value) :
    Except String Table :=
  let last := key.getLast?.getD ""
  if marks.has key .frozen then
    .error ("Cannot mutate immutable namespace " ++ Text.quotedTuple key)
  else match updateAt false some key.dropLast t with
    | none => .error "Cannot overwrite a value"
    | some t =>
      match updateAt false (insertNew last v) key.dropLast t with
      | some t => .ok t
      | none => .error ("Duplicate inline table key " ++ Text.quoted last)

/-- Put the place of a fault to its message. -/
def orFail {α : Type} (rest : List Char) : Except String α → Except Fault α
  | .ok a => .ok a
  | .error message => fail rest message

/-- The value of a literal that starts neither with a quote nor with a bracket. -/
def scalar (cs : List Char) : Except Fault (Value × List Char) :=
  if "true".toList.isPrefixOf cs then .ok (.bool true, cs.drop 4)
  else if "false".toList.isPrefixOf cs then .ok (.bool false, cs.drop 5)
  else match dateTime? cs with
    | some (day, v, rest) =>
      if day.isValid then .ok (v, rest) else fail cs "Invalid date or datetime"
    | none =>
      match afterTime? cs with
      | some rest => .ok (.time, rest)
      | none =>
        match (number? cs).or (special? cs) with
        | some r => .ok r
        | none => fail cs "Invalid value"

mutual

/-- A value. -/
def value : (fuel : Nat) → List Char → Except Fault (Value × List Char)
  | 0, cs => fail cs "Invalid value"
  | fuel + 1, cs =>
    match string? cs with
    | some r => r.map fun (s, rest) => (.str s, rest)
    | none =>
      match cs with
      | '[' :: rest => do
        let rest ← skipFiller (rest.length + 1) rest
        match rest with
        | ']' :: rest => return (.list [], rest)
        | rest => do
          let (items, rest) ← items fuel rest
          return (.list items, rest)
      | '\x7b' :: rest =>
        match skipSpaces rest with
        | '\x7d' :: rest => .ok (.table [], rest)
        | rest => do
          let (t, rest) ← members fuel ⟨[]⟩ [] rest
          return (.table t, rest)
      | cs => scalar cs

/-- The items of an array from an item on, up to the closing bracket. -/
def items : (fuel : Nat) → List Char → Except Fault (List Value × List Char)
  | 0, cs => fail cs "Unclosed array"
  | fuel + 1, cs => do
    let (v, rest) ← value fuel cs
    let rest ← skipFiller (rest.length + 1) rest
    match rest with
    | ']' :: rest => return ([v], rest)
    | ',' :: rest => do
      let rest ← skipFiller (rest.length + 1) rest
      match rest with
      | ']' :: rest => return ([v], rest)
      | rest => do
        let (vs, rest) ← items fuel rest
        return (v :: vs, rest)
    | rest => fail rest "Unclosed array"

/-- The members of an inline table from a key on, up to the closing brace. -/
def members : (fuel : Nat) → Marks → Table → List Char → Except Fault (Table × List Char)
  | 0, _, _, cs => fail cs "Unclosed inline table"
  | fuel + 1, marks, t, cs => do
    let ((path, v), rest) ← pair fuel cs
    let t ← orFail rest (insertInline marks t path v)
    match skipSpaces rest with
    | '\x7d' :: rest => return (t, rest)
    | ',' :: rest =>
      let marks := if Document.isInline v then marks.add path .frozen else marks
      members fuel marks t (skipSpaces rest)
    | rest => fail rest "Unclosed inline table"

/-- A key with its value. -/
def pair : (fuel : Nat) → List Char → Except Fault ((List String × Value) × List Char)
  | 0, cs => fail cs "Invalid value"
  | fuel + 1, cs => do
    let (path, rest) ← key (cs.length + 1) cs
    match rest with
    | '=' :: rest => do
      let (v, rest) ← value fuel (skipSpaces rest)
      return ((path, v), rest)
    | rest => fail rest "Expected '=' after a key in a key/value pair"

end

/-- The header of a table, behind its bracket. -/
def tableHeader (d : Document) (cs : List Char) : Except Fault (Document × List Char) := do
  let cs := skipSpaces cs
  let (path, rest) ← key (cs.length + 1) cs
  let d ← orFail rest (d.declareTable path)
  match rest with
  | ']' :: rest => return (d, rest)
  | rest => fail rest "Expected ']' at the end of a table declaration"

/-- The header of one more table of a list, behind its brackets. -/
def itemHeader (d : Document) (cs : List Char) : Except Fault (Document × List Char) := do
  let cs := skipSpaces cs
  let (path, rest) ← key (cs.length + 1) cs
  let d ← orFail rest (d.declareItem path)
  match rest with
  | ']' :: ']' :: rest => return (d, rest)
  | rest => fail rest "Expected ']]' at the end of an array declaration"

/-- One statement; a comment is none. -/
def statement (d : Document) (cs : List Char) : Except Fault (Document × List Char) :=
  match cs with
  | '[' :: '[' :: rest => itemHeader d.settle rest
  | '[' :: rest => tableHeader d.settle rest
  | '#' :: _ => .ok (d, cs)
  | cs =>
    if cs.head?.any isKeyStart then do
      let ((path, v), rest) ← pair (2 * cs.length + 4) cs
      let d ← orFail rest (d.assign path v)
      return (d, rest)
    else fail cs "Invalid statement"

/-- The statements of a document; each step takes at least one character. -/
def statements : (fuel : Nat) → Document → List Char → Except Fault Document
  | 0, d, _ => .ok d
  | fuel + 1, d, cs =>
    match skipSpaces cs with
    | [] => .ok d
    | '\n' :: rest => statements fuel d rest
    | cs => do
      let (d, rest) ← statement d cs
      let rest ← skipComment (skipSpaces rest)
      match rest with
      | [] => return d
      | '\n' :: rest => statements fuel d rest
      | rest => fail rest "Expected newline or end of document after a statement"

/-- The place of a fault in words. -/
def place (source rest : List Char) : String :=
  if rest = [] then "end of document"
  else
    let before := source.take (source.length - rest.length)
    let line := (before.filter (· = '\n')).length + 1
    let column := (before.reverse.takeWhile (· ≠ '\n')).length + 1
    "line " ++ toString line ++ ", column " ++ toString column

/-- Carriage returns before a line feed are dropped. -/
def dropReturns : List Char → List Char
  | '\r' :: '\n' :: cs => '\n' :: dropReturns cs
  | c :: cs => c :: dropReturns cs
  | [] => []

/-- Read a document; a fault gives a message with its place. -/
def parse (text : List Char) : Except String Table :=
  let source := dropReturns text
  match statements (source.length + 1) {} source with
  | .ok d => .ok d.content
  | .error f => .error (f.message ++ " (at " ++ place source f.rest ++ ")")

end NodeLint.Toml
