import NodeLint.Source.Position

/-!
# Number literals

The shapes of integers in four bases, of fractions, exponents and imaginary numbers, with single
underscores between digits. Only the extent of a literal matters here, not its value. Each
scanner takes the rest of the line and gives what follows the literal.
-/

namespace NodeLint.Source

/-- A malformed literal. The fault is at the character before `rest`, or at the start of the
literal when there is none. -/
structure NumberFault where
  message : String
  rest : Option (List Char)
deriving Repr, DecidableEq

/-- The result of a scanner: what follows the literal. -/
abbrev NumberScan := Except NumberFault (List Char)

/-- Characters that may belong to a name; every character outside ASCII may. -/
def isWordChar (c : Char) : Bool :=
  c.isAlphanum || c = '_' || c.toNat ≥ 128

/-- Whether the text starts with a word that ends there. -/
def startsWord (word : List Char) (cs : List Char) : Bool :=
  word.isPrefixOf cs && !((cs.drop word.length).head?.any isWordChar)

/-- Whether the text starts with a keyword that may touch a number. -/
def startsOperatorWord (cs : List Char) : Bool :=
  startsWord "and".toList cs || startsWord "else".toList cs || startsWord "for".toList cs ||
    startsWord "or".toList cs || startsWord "not".toList cs ||
    "if".toList.isPrefixOf cs || "in".toList.isPrefixOf cs || "is".toList.isPrefixOf cs

/-- No character of a name in ASCII may touch a number, unless it starts an operator word. -/
def endOfNumber (kind : String) (cs : List Char) : NumberScan :=
  if startsOperatorWord cs || !(cs.head?.any fun c => c.toNat < 128 && isWordChar c) then .ok cs
  else .error ⟨"invalid " ++ kind ++ " literal", some cs⟩

/-- Decimal digits behind a first one. -/
def decimalTail : List Char → NumberScan
  | '_' :: d :: cs =>
    if d.isDigit then decimalTail cs else .error ⟨"invalid decimal literal", some (d :: cs)⟩
  | c :: cs => if c.isDigit then decimalTail cs else .ok (c :: cs)
  | [] => .ok []

/-- A mark for the imaginary unit, and the end of the literal. -/
def imaginaryPart : List Char → NumberScan
  | 'j' :: cs => endOfNumber "imaginary" cs
  | 'J' :: cs => endOfNumber "imaginary" cs
  | cs => endOfNumber "decimal" cs

/-- The exponent behind its letter `e`. Without digits the letter is not part of the number. -/
def exponentDigits (e : Char) : List Char → NumberScan
  | '+' :: d :: cs | '-' :: d :: cs =>
    if d.isDigit then decimalTail cs >>= imaginaryPart
    else .error ⟨"invalid decimal literal", some (d :: cs)⟩
  | d :: cs =>
    if d.isDigit then decimalTail cs >>= imaginaryPart
    else if startsWord "else".toList (e :: d :: cs) then .ok (e :: d :: cs)
    else .error ⟨"invalid decimal literal", some (e :: d :: cs)⟩
  | [] => .ok [e]

/-- An exponent, if there is one, and what follows it. -/
def exponentPart : List Char → NumberScan
  | 'e' :: cs => exponentDigits 'e' cs
  | 'E' :: cs => exponentDigits 'E' cs
  | cs => imaginaryPart cs

/-- The digits behind a decimal point, if there are any, and what follows them. -/
def fractionPart : List Char → NumberScan
  | d :: cs => if d.isDigit then decimalTail cs >>= exponentPart else exponentPart (d :: cs)
  | [] => .ok []

/-- What follows the digits before the decimal point. -/
def afterInteger : List Char → NumberScan
  | '.' :: cs => fractionPart cs
  | cs => exponentPart cs

/-- Skip the zeros of a literal that starts with zero. -/
def skipZeros : List Char → NumberScan
  | '_' :: d :: cs =>
    if d = '0' then skipZeros cs
    else if d.isDigit then .ok (d :: cs)
    else .error ⟨"invalid decimal literal", some (d :: cs)⟩
  | '0' :: cs => skipZeros cs
  | cs => .ok cs

/-- Whether the text goes on with a point, an exponent or an imaginary mark. -/
def continuesNumber (cs : List Char) : Bool :=
  cs.head?.any fun c => c = '.' || c = 'e' || c = 'E' || c = 'j' || c = 'J'

/-- A decimal literal behind its leading zero: an integer may only be zero. -/
def zeroLed (cs : List Char) : NumberScan := do
  let cs ← skipZeros cs
  match cs with
  | d :: rest =>
    if d.isDigit then
      let after ← decimalTail rest
      if continuesNumber after then afterInteger after
      else .error ⟨"leading zeros in decimal integer literals are not permitted; use an 0o " ++
        "prefix for octal integers", none⟩
    else afterInteger (d :: rest)
  | [] => .ok []

/-- A base other than ten. -/
structure Radix where
  name : String
  size : Nat

namespace Radix

def binary : Radix := ⟨"binary", 2⟩
def octal : Radix := ⟨"octal", 8⟩
def hexadecimal : Radix := ⟨"hexadecimal", 16⟩

/-- Whether a character is a digit of the base. -/
def has (r : Radix) (c : Char) : Bool :=
  if r.size = 16 then c.isDigit || ('a' ≤ c && c ≤ 'f') || ('A' ≤ c && c ≤ 'F')
  else '0' ≤ c && c.toNat < '0'.toNat + r.size

/-- A decimal digit that is none of the base is named, and the fault is at the digit itself. -/
def badDigit (r : Radix) (d : Char) (rest : List Char) : NumberScan :=
  .error ⟨"invalid digit '" ++ d.toString ++ "' in " ++ r.name ++ " literal", some rest⟩

/-- The fault of a literal in which a digit is missing. -/
def missingDigit (r : Radix) : List Char → NumberScan
  | d :: cs =>
    if d.isDigit then r.badDigit d cs
    else .error ⟨"invalid " ++ r.name ++ " literal", some (d :: cs)⟩
  | [] => .error ⟨"invalid " ++ r.name ++ " literal", some []⟩

/-- The digits behind a first one, and the end of the literal. -/
def tail (r : Radix) : List Char → NumberScan
  | '_' :: d :: cs => if r.has d then r.tail cs else r.missingDigit (d :: cs)
  | c :: cs =>
    if r.has c then r.tail cs
    else if c.isDigit then r.badDigit c cs
    else endOfNumber r.name (c :: cs)
  | [] => .ok []

/-- The digits behind the mark of the base. -/
def digits (r : Radix) : List Char → NumberScan
  | '_' :: d :: cs => if r.has d then r.tail cs else r.missingDigit (d :: cs)
  | d :: cs => if r.has d then r.tail cs else r.missingDigit (d :: cs)
  | [] => r.missingDigit []

end Radix

/-- Scan a literal; the text starts with a digit, or with a point and a digit. -/
def scanNumber : List Char → NumberScan
  | '.' :: cs => fractionPart cs
  | '0' :: 'x' :: cs | '0' :: 'X' :: cs => Radix.hexadecimal.digits cs
  | '0' :: 'o' :: cs | '0' :: 'O' :: cs => Radix.octal.digits cs
  | '0' :: 'b' :: cs | '0' :: 'B' :: cs => Radix.binary.digits cs
  | '0' :: cs => zeroLed cs
  | _ :: cs => decimalTail cs >>= afterInteger
  | [] => .ok []

end NodeLint.Source
