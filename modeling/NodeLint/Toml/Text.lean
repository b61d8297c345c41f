import NodeLint.Text.Quoted

/-!
# Strings, keys and comments

The readers of a configuration document that are made of characters only. A reader takes the text
from where it stands and gives what it read and the rest, or a fault with the text at which it gave
up.
-/

namespace NodeLint.Toml

/-- Why a document cannot be read, and the text from there on. -/
structure Fault where
  message : String
  rest : List Char

/-- Give up at a place. -/
def fail {α : Type} (rest : List Char) (message : String) : Except Fault α :=
  .error ⟨message, rest⟩

/-- Blanks inside a line. -/
def isSpace (c : Char) : Bool := c = ' ' || c = '\t'

/-- Blanks and line ends. -/
def isSpaceOrNewline (c : Char) : Bool := isSpace c || c = '\n'

/-- Skip blanks inside a line. -/
def skipSpaces (cs : List Char) : List Char := cs.dropWhile isSpace

/-- Control characters, tabs excepted. -/
def isControl (c : Char) : Bool := (c.toNat < 32 || c.toNat = 127) && c ≠ '\t'

/-- Control characters, tabs and line ends excepted. -/
def isControlInBlock (c : Char) : Bool := isControl c && c ≠ '\n'

/-- A character as messages show it. -/
def shown (c : Char) : String := Text.quoted c.toString

/-- The text before the first occurrence of a delimiter, and the text from there on. -/
def breakAt? (delimiter : List Char) : List Char → Option (List Char × List Char)
  | [] => none
  | c :: cs =>
    if delimiter.isPrefixOf (c :: cs) then some ([], c :: cs)
    else (breakAt? delimiter cs).map fun (a, b) => (c :: a, b)

/-- Refuse the first forbidden character within the first `count` characters. -/
def refuseWithin (forbidden : Char → Bool) : (count : Nat) → List Char → Except Fault Unit
  | 0, _ => .ok ()
  | _ + 1, [] => .ok ()
  | count + 1, c :: cs =>
    if forbidden c then fail (c :: cs) ("Found invalid character " ++ shown c)
    else refuseWithin forbidden count cs

/-- Skip a comment, if there is one; its line end stays. -/
def skipComment : List Char → Except Fault (List Char)
  | '#' :: cs => do
    let comment := cs.takeWhile (· ≠ '\n')
    refuseWithin isControl comment.length cs
    return cs.drop comment.length
  | cs => .ok cs

/-- Skip blanks, line ends and comments between the items of an array. -/
def skipFiller : (fuel : Nat) → List Char → Except Fault (List Char)
  | 0, cs => .ok cs
  | fuel + 1, cs =>
    match cs.dropWhile isSpaceOrNewline with
    | '#' :: rest => do
      let rest ← skipComment ('#' :: rest)
      skipFiller fuel rest
    | rest => .ok rest

/-- A literal string up to its delimiter; `forbidden` characters may not stand in it. -/
def literal (delimiter : String) (forbidden : Char → Bool) (cs : List Char) : Except Fault (List Char × List Char) :=
  match breakAt? delimiter.toList cs with
  | none => fail [] ("Expected " ++ Text.quoted delimiter)
  | some (body, rest) => do
    refuseWithin forbidden body.length cs
    return (body, rest.drop delimiter.toList.length)

/-- The value of a hexadecimal digit in either case. -/
def hexDigit? (c : Char) : Option Nat :=
  if c.isDigit then some (c.toNat - '0'.toNat)
  else if 'a' ≤ c && c ≤ 'f' then some (c.toNat - 'a'.toNat + 10)
  else if 'A' ≤ c && c ≤ 'F' then some (c.toNat - 'A'.toNat + 10)
  else none

/-- A character by its number in `count` hexadecimal digits. -/
def hexChar (count : Nat) (cs : List Char) : Except Fault (List Char × List Char) :=
  match (cs.take count).mapM hexDigit? with
  | some ds =>
    if ds.length = count then
      let n := ds.foldl (fun n d => 16 * n + d) 0
      if n < 0xD800 || (0xDFFF < n && n < 0x110000) then .ok ([Char.ofNat n], cs.drop count)
      else fail (cs.drop count) "Escaped character is not a Unicode scalar value"
    else fail cs "Invalid hex value"
  | none => fail cs "Invalid hex value"

/-- The characters that stand for themselves or another behind a backslash. -/
def simpleEscape? (c : Char) : Option Char :=
  [('b', '\x08'), ('t', '\t'), ('n', '\n'), ('f', '\x0c'), ('r', '\r'), ('"', '"'),
    ('\\', '\\')].lookup c

/-- The fault of a backslash that escapes nothing. -/
def loneBackslash {α : Type} (rest : List Char) : Except Fault α :=
  fail rest "Unescaped '\\' in a string"

/-- What an escape stands for; the text starts behind the backslash. In a block string a backslash
at the end of a line takes all blanks that follow with it. -/
def unescape (block : Bool) : List Char → Except Fault (List Char × List Char)
  | [] => loneBackslash []
  | c :: cs =>
    if block && c = '\n' then .ok ([], cs.dropWhile isSpaceOrNewline)
    else if block && isSpace c then
      match skipSpaces cs with
      | [] => .ok ([], [])
      | '\n' :: rest => .ok ([], rest.dropWhile isSpaceOrNewline)
      | rest => loneBackslash rest
    else if c = 'u' then hexChar 4 cs
    else if c = 'U' then hexChar 8 cs
    else match simpleEscape? c with
      | some d => .ok ([d], cs)
      | none => loneBackslash cs

/-- A basic string up to its closing quotes; `acc` holds the characters so far, last first. -/
def basic (block : Bool) : (fuel : Nat) → List Char → (acc : List Char) → Except Fault (List Char × List Char)
  | 0, cs, _ => fail cs "Unterminated string"
  | _ + 1, [], _ => fail [] "Unterminated string"
  | fuel + 1, c :: cs, acc =>
    if c = '"' then
      if !block then .ok (acc.reverse, cs)
      else if ['"', '"'].isPrefixOf cs then .ok (acc.reverse, cs.drop 2)
      else basic block fuel cs (c :: acc)
    else if c = '\\' then do
      let (new, rest) ← unescape block cs
      basic block fuel rest (new.reverse ++ acc)
    else if if block then isControlInBlock c else isControl c then
      fail (c :: cs) ("Illegal character " ++ shown c)
    else basic block fuel cs (c :: acc)

/-- Up to two more quotes belong to a block string that ends in more than three. -/
def extraQuotes (quote : Char) (body : List Char) : List Char → List Char × List Char
  | a :: b :: cs =>
    if a = quote then
      if b = quote then (body ++ [quote, quote], cs) else (body ++ [quote], b :: cs)
    else (body, a :: b :: cs)
  | [a] => if a = quote then (body ++ [quote], []) else (body, [a])
  | [] => (body, [])

/-- A line end right behind the opening quotes of a block string is not part of it. -/
def dropFirstNewline : List Char → List Char
  | '\n' :: cs => cs
  | cs => cs

/-- A string of any of the four shapes, if the text starts with a quote. -/
def string? (cs : List Char) : Option (Except Fault (String × List Char)) :=
  let finish (quote : Char) (r : Except Fault (List Char × List Char)) : Except Fault (String × List Char) :=
    r.map fun (body, rest) =>
      let (body, rest) := extraQuotes quote body rest
      (String.ofList body, rest)
  let plain (r : Except Fault (List Char × List Char)) : Except Fault (String × List Char) :=
    r.map fun (body, rest) => (String.ofList body, rest)
  match cs with
  | '"' :: '"' :: '"' :: rest =>
    let rest := dropFirstNewline rest
    some (finish '"' (basic true (rest.length + 1) rest []))
  | '"' :: rest => some (plain (basic false (rest.length + 1) rest []))
  | '\'' :: '\'' :: '\'' :: rest =>
    some (finish '\'' (literal "'''" isControlInBlock (dropFirstNewline rest)))
  | '\'' :: rest => some (plain (literal "'" isControl rest))
  | _ => none

/-! ## Keys -/

/-- Characters of a bare key. -/
def isBareKeyChar (c : Char) : Bool := c.isAlphanum || c = '-' || c = '_'

/-- Whether a key may start with this character. -/
def isKeyStart (c : Char) : Bool := isBareKeyChar c || c = '"' || c = '\''

/-- One part of a key. -/
def keyPart : List Char → Except Fault (String × List Char)
  | '\'' :: cs => (literal "'" isControl cs).map fun (k, rest) => (String.ofList k, rest)
  | '"' :: cs =>
    (basic false (cs.length + 1) cs []).map fun (k, rest) => (String.ofList k, rest)
  | cs =>
    if cs.head?.any isBareKeyChar then
      .ok (String.ofList (cs.takeWhile isBareKeyChar), cs.dropWhile isBareKeyChar)
    else fail cs "Invalid initial character for a key part"

/-- A key of parts with dots between; blanks may stand around the dots. -/
def key : (fuel : Nat) → List Char → Except Fault (List String × List Char)
  | 0, cs => fail cs "Invalid initial character for a key part"
  | fuel + 1, cs => do
    let (part, rest) ← keyPart cs
    match skipSpaces rest with
    | '.' :: rest => do
      let (parts, rest) ← key fuel (skipSpaces rest)
      return (part :: parts, rest)
    | rest => return ([part], rest)

end NodeLint.Toml
