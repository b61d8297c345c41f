import NodeLint.Source.Number
import NodeLint.Text.CharacterName
import NodeLint.Text.Quoted

/-!
# Escapes in string literals

A backslash in a string literal starts an escape. Only a few escapes can be wrong: those that give
a character by its number or its name, and in bytes those that give a byte by its number. A
message about the first kind counts positions in the text as it is handed to the decoder, where
characters outside ASCII have become escapes themselves.
-/

namespace NodeLint.Source

/-- The escape that stands for a backslash. -/
def backslashEscape : List Char := "\\u005c".toList

/-- A text as it is handed to the decoder. -/
def decoderText : List Char → List Char
  | [] => []
  | ['\\'] => backslashEscape
  | '\\' :: c :: cs =>
    if c.toNat < 128 then '\\' :: c :: decoderText cs
    else backslashEscape ++ longEscape c ++ decoderText cs
  | c :: cs => (if c.toNat < 128 then [c] else longEscape c) ++ decoderText cs
where
  /-- The escape of a character with eight digits. -/
  longEscape (c : Char) : List Char := '\\' :: 'U' :: Text.hexPadded 8 c.toNat

/-- What is wrong with an escape, and how many characters of the text it takes. -/
structure EscapeFault where
  message : String
  length : Nat
deriving Repr, DecidableEq

/-- The fault of an escape by number, from what follows its letter. -/
def numberFault? (letter : Char) (width : Nat) (cs : List Char) : Option EscapeFault :=
  let digits := (cs.take width).takeWhile Radix.hexadecimal.has
  if digits.length < width then
    some ⟨"truncated \\" ++ letter.toString ++ String.ofList (List.replicate width 'X') ++
      " escape", 2 + digits.length⟩
  else if 0x10FFFF < Text.hexValue (digits.map Char.toUpper) then
    some ⟨"illegal Unicode character", 2 + width⟩
  else none

/-- The fault of an escape by name, from what follows its letter. -/
def nameFault? (cs : List Char) : Option EscapeFault :=
  let malformed := "malformed \\N character escape"
  match cs with
  | '\x7b' :: rest =>
    let name := rest.takeWhile (· ≠ '\x7d')
    if rest.length = name.length then some ⟨malformed, 3 + name.length⟩
    else if name = [] then some ⟨malformed, 3⟩
    else if Text.isCharacterName name then none
    else some ⟨"unknown Unicode character name", 4 + name.length⟩
  | _ => some ⟨malformed, 2⟩

/-- The fault of the escape with a letter, from what follows the letter. -/
def escapeFault? (letter : Char) (cs : List Char) : Option EscapeFault :=
  if letter = 'x' then numberFault? 'x' 2 cs
  else if letter = 'u' then numberFault? 'u' 4 cs
  else if letter = 'U' then numberFault? 'U' 8 cs
  else if letter = 'N' then nameFault? cs
  else none

/-- The first fault in a text for the decoder, and where its escape starts. -/
def firstFault? : (position : Nat) → List Char → Option (Nat × EscapeFault)
  | _, [] => none
  | n, '\\' :: c :: cs =>
    match escapeFault? c cs with
    | some fault => some (n, fault)
    | none => firstFault? (n + 2) cs
  | n, _ :: cs => firstFault? (n + 1) cs

/-- The words for the first wrong escape in the text of a string literal. -/
def badEscape? (text : List Char) : Option String :=
  (firstFault? 0 (decoderText text)).map fun (n, fault) =>
    "(unicode error) 'unicodeescape' codec can't decode bytes in position " ++ toString n ++ "-" ++
      toString (n + fault.length - 1) ++ ": " ++ fault.message

/-- Where the first wrong escape in the text of a bytes literal starts. -/
def badByteAt? : (position : Nat) → List Char → Option Nat
  | _, [] => none
  | n, '\\' :: c :: cs =>
    if c = 'x' && ((cs.take 2).takeWhile Radix.hexadecimal.has).length < 2 then some n
    else badByteAt? (n + 2) cs
  | n, _ :: cs => badByteAt? (n + 1) cs

/-- The words for the first wrong escape in the text of a bytes literal. -/
def badByteEscape? (text : List Char) : Option String :=
  (badByteAt? 0 text).map fun n =>
    "(value error) invalid \\x escape at position " ++ toString n

end NodeLint.Source
