import NodeLint.Settings.Value
import NodeLint.Text.Lines

/-!
# Numbers, dates and times

The scalar literals of a configuration document that start with a digit or a sign. Each reader
takes the longest literal of its kind from the front of a text, or none. Only integers have a
value; of the others the extent and the kind are kept.
-/

namespace NodeLint.Toml

/-- Read a fixed number of decimal digits as a number. -/
def digits? : (count : Nat) → List Char → (value : Nat) → Option (Nat × List Char)
  | 0, cs, value => some (value, cs)
  | _ + 1, [], _ => none
  | count + 1, c :: cs, value =>
    if c.isDigit then digits? count cs (10 * value + (c.toNat - '0'.toNat)) else none

/-- Read digits of a base with single underscores between them, behind a first digit. -/
def digitTail (digit? : Char → Option Nat) (base : Nat) :
    List Char → (value : Nat) → Nat × List Char
  | '_' :: c :: cs, value =>
    match digit? c with
    | some d => digitTail digit? base cs (base * value + d)
    | none => (value, '_' :: c :: cs)
  | c :: cs, value =>
    match digit? c with
    | some d => digitTail digit? base cs (base * value + d)
    | none => (value, c :: cs)
  | [], value => (value, [])

/-- The value of a digit in a base up to sixteen. -/
def digitIn? (base : Nat) (c : Char) : Option Nat :=
  let n :=
    if c.isDigit then c.toNat - '0'.toNat
    else if 'a' ≤ c && c ≤ 'f' then c.toNat - 'a'.toNat + 10
    else if 'A' ≤ c && c ≤ 'F' then c.toNat - 'A'.toNat + 10
    else 16
  if n < base then some n else none

/-- Digits of a base, at least one. -/
def digitRun? (base : Nat) : List Char → Option (Nat × List Char)
  | c :: cs => (digitIn? base c).map fun d => digitTail (digitIn? base) base cs d
  | [] => none

/-- The integer part of a decimal number: zero, or digits that do not start with zero. -/
def integerPart? : List Char → Option (Nat × List Char)
  | '0' :: cs => some (0, cs)
  | cs => digitRun? 10 cs

/-- What follows a fraction, if there is one. -/
def afterFraction? : List Char → Option (List Char)
  | '.' :: cs => (digitRun? 10 cs).map Prod.snd
  | _ => none

/-- What follows an exponent, if there is one. -/
def afterExponent? : List Char → Option (List Char)
  | c :: cs =>
    if c = 'e' || c = 'E' then
      match cs with
      | '+' :: cs => (digitRun? 10 cs).map Prod.snd
      | '-' :: cs => (digitRun? 10 cs).map Prod.snd
      | cs => (digitRun? 10 cs).map Prod.snd
    else none
  | [] => none

/-- A decimal integer or a fractional number behind its sign. -/
def decimal? (negative : Bool) (cs : List Char) : Option (Value × List Char) := do
  let (n, rest) ← integerPart? cs
  let fraction := afterFraction? rest
  let exponent := afterExponent? (fraction.getD rest)
  match fraction, exponent with
  | none, none => return (.int (if negative then -(n : Int) else n), rest)
  | _, some after => return (.float, after)
  | some after, none => return (.float, after)

/-- An integer of another base behind its leading zero. -/
def based? : List Char → Option (Value × List Char)
  | 'x' :: cs => (digitRun? 16 cs).map fun (n, rest) => (.int n, rest)
  | 'b' :: cs => (digitRun? 2 cs).map fun (n, rest) => (.int n, rest)
  | 'o' :: cs => (digitRun? 8 cs).map fun (n, rest) => (.int n, rest)
  | _ => none

/-- A number. -/
def number? : List Char → Option (Value × List Char)
  | '0' :: cs => (based? cs).or (decimal? false ('0' :: cs))
  | '+' :: cs => decimal? false cs
  | '-' :: cs => decimal? true cs
  | cs => decimal? false cs

/-- A number that is written as a word. -/
def special? (cs : List Char) : Option (Value × List Char) :=
  if ["inf", "nan"].contains (String.ofList (cs.take 3)) then some (.float, cs.drop 3)
  else if ["-inf", "+inf", "-nan", "+nan"].contains (String.ofList (cs.take 4)) then
    some (.float, cs.drop 4)
  else none

/-- The next character is this one. -/
def expect? (c : Char) : List Char → Option (List Char)
  | d :: cs => if c = d then some cs else none
  | [] => none

/-- A number of two digits within bounds. -/
def twoDigits? (low high : Nat) (cs : List Char) : Option (Nat × List Char) := do
  let (n, rest) ← digits? 2 cs 0
  if low ≤ n && n ≤ high then return (n, rest) else none

/-- Digits of a second behind a point, if there are any. -/
def afterSubseconds : List Char → List Char
  | '.' :: c :: cs => if c.isDigit then cs.dropWhile Char.isDigit else '.' :: c :: cs
  | cs => cs

/-- What follows a time of day. -/
def afterTime? (cs : List Char) : Option (List Char) := do
  let (_, cs) ← twoDigits? 0 23 cs
  let cs ← expect? ':' cs
  let (_, cs) ← twoDigits? 0 59 cs
  let cs ← expect? ':' cs
  let (_, cs) ← twoDigits? 0 59 cs
  return afterSubseconds cs

/-- What follows an offset from universal time, if there is one. -/
def afterOffset (cs : List Char) : List Char :=
  match cs with
  | 'Z' :: rest | 'z' :: rest => rest
  | '+' :: rest | '-' :: rest =>
    (do
      let (_, rest) ← twoDigits? 0 23 rest
      let rest ← expect? ':' rest
      let (_, rest) ← twoDigits? 0 59 rest
      return rest).getD cs
  | _ => cs

/-- How many days a month has. -/
def monthDays (year month : Nat) : Nat :=
  if month = 2 then
    if year % 4 = 0 && (year % 100 ≠ 0 || year % 400 = 0) then 29 else 28
  else if [4, 6, 9, 11].contains month then 30
  else 31

/-- A day of the calendar; there is no year zero. -/
structure Day where
  year : Nat
  month : Nat
  day : Nat

def Day.isValid (d : Day) : Bool := 1 ≤ d.year && d.day ≤ monthDays d.year d.month

/-- A day in digits. -/
def day? (cs : List Char) : Option (Day × List Char) := do
  let (year, cs) ← digits? 4 cs 0
  let cs ← expect? '-' cs
  let (month, cs) ← twoDigits? 1 12 cs
  let cs ← expect? '-' cs
  let (day, cs) ← twoDigits? 1 31 cs
  return (⟨year, month, day⟩, cs)

/-- A day, alone or with a time of day. -/
def dateTime? (cs : List Char) : Option (Day × Value × List Char) := do
  let (day, cs) ← day? cs
  let timed := match cs with
    | 'T' :: rest | 't' :: rest | ' ' :: rest => afterTime? rest
    | _ => none
  match timed with
  | some rest => return (day, .datetime, afterOffset rest)
  | none => return (day, .date, cs)

end NodeLint.Toml
