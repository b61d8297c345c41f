import NodeLint.Text.Quoted

/-!
# JSON documents

The machine-readable outputs are JSON in pure ASCII, indented by two spaces a level. Members keep
the order they are written in. A character from the space to the tilde stands for itself, apart
from the quote and the backslash; any other without a short escape is written by its UTF-16
units.
-/

namespace NodeLint

/-- A JSON document without fractional numbers. -/
inductive Json where
  | null
  | bool (b : Bool)
  | int (n : Int)
  | str (s : String)
  | arr (items : List Json)
  | obj (members : List (String × Json))

namespace Json

/-- The `\u` escape of one UTF-16 unit. -/
def unitEscape (n : Nat) : List Char :=
  '\\' :: 'u' :: Text.hexPadded 4 n

/-- One character of a JSON string. -/
def escapeChar (c : Char) : List Char :=
  let n := c.toNat
  if c = '"' then ['\\', '"']
  else if c = '\\' then ['\\', '\\']
  else if c = '\n' then ['\\', 'n']
  else if c = '\r' then ['\\', 'r']
  else if c = '\t' then ['\\', 't']
  else if c = '\x08' then ['\\', 'b']
  else if c = '\x0c' then ['\\', 'f']
  else if 32 ≤ n && n < 127 then [c]
  else if n < 0x10000 then unitEscape n
  else unitEscape (0xD800 + (n - 0x10000) / 0x400) ++ unitEscape (0xDC00 + (n - 0x10000) % 0x400)

/-- A JSON string with its quotes. -/
def renderString (s : String) : String :=
  String.ofList ('"' :: s.toList.flatMap escapeChar ++ ['"'])

/-- The indentation of a level. -/
def indentation (level : Nat) : String :=
  String.ofList (List.replicate (2 * level) ' ')

/-- Items one a line between brackets, or the empty brackets. -/
def bracketed (opening closing : String) (level : Nat) : List String → String
  | [] => opening ++ closing
  | items =>
    opening ++ "\n" ++ Text.join ",\n" (items.map (indentation (level + 1) ++ ·)) ++ "\n" ++
      indentation level ++ closing

mutual

/-- A document that stands at a level of indentation. -/
def renderAt (level : Nat) : Json → String
  | .null => "null"
  | .bool b => if b then "true" else "false"
  | .int n => toString n
  | .str s => renderString s
  | .arr items => bracketed "[" "]" level (renderItems (level + 1) items)
  | .obj members => bracketed "\x7b" "\x7d" level (renderMembers (level + 1) members)

/-- The items of an array. -/
def renderItems (level : Nat) : List Json → List String
  | [] => []
  | v :: rest => renderAt level v :: renderItems level rest

/-- The members of an object. -/
def renderMembers (level : Nat) : List (String × Json) → List String
  | [] => []
  | (k, v) :: rest => (renderString k ++ ": " ++ renderAt level v) :: renderMembers level rest

end

/-- The text of a document. -/
def render (v : Json) : String := renderAt 0 v

/-- A string, or null. -/
def ofString? : Option String → Json
  | none => .null
  | some s => .str s

end Json
end NodeLint
