import NodeLint.Source.Grammar.Rule

/-!
# Patterns

The patterns of the cases of a match statement.
-/

namespace NodeLint.Source.Phrase

open Peg

def patterns : Phrase := alt [ref .openSequencePattern, ref .pattern]

/-- A name that a pattern binds. -/
def captureTarget : Phrase :=
  seq [notAhead (word "_"), anyName, notAhead (alt [op ".", op "(", op "="])]

def pattern : Phrase :=
  alt [
    alt [
      seq [ref .orPattern, word "as", captureTarget],
      hint (alt [
        refuse (seq [ref .orPattern, word "as", mark (word "_")])
          (.atMark "cannot use '_' as a target"),
        refuse (seq [ref .orPattern, word "as", notAhead anyName, mark (ref .expression)])
          (.atMark "invalid pattern target")])],
    ref .orPattern]

def orPattern : Phrase := sepBy (ref .closedPattern) (op "|")

/-- A number with an optional minus sign. -/
def signedNumber : Phrase :=
  alt [number, seq [op "-", number]]

/-- A real part and an imaginary part. -/
def complexNumber : Phrase :=
  let real := checked keptNumber .notReal
  let imaginary := checked keptNumber .notImaginary
  let signedReal := alt [real, seq [op "-", real]]
  alt [seq [signedReal, op "+", imaginary], seq [signedReal, op "-", imaginary]]

/-- A literal as a pattern or as a key. -/
def literalPattern : Phrase :=
  alt [
    seq [signedNumber, notAhead (alt [op "+", op "-"])],
    complexNumber,
    ref .strings,
    word "None",
    word "True",
    word "False"]

/-- A dotted name. -/
def dotted : Phrase := seq [anyName, many1 (seq [op ".", anyName])]

/-- A plain or dotted name. -/
def nameOrDotted : Phrase := seq [anyName, many (seq [op ".", anyName])]

/-- A pattern that matches a mapping. -/
def mappingPattern : Phrase :=
  let rest := seq [op "**", captureTarget]
  let item := seq [alt [literalPattern, dotted], op ":", ref .pattern]
  alt [
    seq [op "\x7b", op "\x7d"],
    seq [op "\x7b", rest, optional (op ","), op "\x7d"],
    seq [op "\x7b", commaList item, op ",", rest, optional (op ","), op "\x7d"],
    seq [op "\x7b", commaList item, optional (op ","), op "\x7d"]]

/-- A pattern that matches an instance. -/
def classPattern : Phrase :=
  let positional := commaList (ref .pattern)
  let keywords := commaList (seq [anyName, op "=", ref .pattern])
  alt [
    seq [nameOrDotted, op "(", op ")"],
    seq [nameOrDotted, op "(", positional, optional (op ","), op ")"],
    seq [nameOrDotted, op "(", keywords, optional (op ","), op ")"],
    seq [nameOrDotted, op "(", positional, op ",", keywords, optional (op ","), op ")"],
    hint (refuse (seq [nameOrDotted, op "(", optional (seq [positional, op ","]), keywords, op ",",
      mark positional]) (.atMark "positional patterns follow keyword patterns"))]

def closedPattern : Phrase :=
  alt [
    literalPattern,
    captureTarget,
    word "_",
    seq [dotted, notAhead (alt [op ".", op "(", op "="])],
    seq [op "(", ref .pattern, op ")"],
    seq [op "[", optional (ref .maybeSequencePattern), op "]"],
    seq [op "(", optional (ref .openSequencePattern), op ")"],
    mappingPattern,
    classPattern]

/-- An element of a sequence pattern. -/
def maybeStarPattern : Phrase := alt [ref .starPattern, ref .pattern]

def openSequencePattern : Phrase :=
  seq [maybeStarPattern, op ",", optional (ref .maybeSequencePattern)]

def maybeSequencePattern : Phrase := seq [commaList maybeStarPattern, optional (op ",")]

def starPattern : Phrase :=
  alt [seq [op "*", captureTarget], seq [op "*", word "_"]]

end NodeLint.Source.Phrase
