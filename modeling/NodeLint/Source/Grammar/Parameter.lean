import NodeLint.Source.Grammar.Rule

/-!
# Parameters

The parameter lists of functions and of lambda expressions. They differ in what closes the list
and in that only a function's parameters may be annotated.
-/

namespace NodeLint.Source.Phrase

open Peg

/-- Where a parameter list stands. -/
inductive ParameterPlace where
  | function
  | lambda
deriving DecidableEq

namespace ParameterPlace

/-- What closes the list. -/
def closing : ParameterPlace → Phrase
  | .function => op ")"
  | .lambda => op ":"

/-- One parameter without its default. -/
def parameter : ParameterPlace → Phrase
  | .function => seq [anyName, optional (seq [op ":", ref .expression])]
  | .lambda => anyName

/-- A parameter list as messages call it. -/
def title : ParameterPlace → String
  | .function => "Function"
  | .lambda => "Lambda expression"

end ParameterPlace

/-- The default of a parameter. -/
def default : Phrase :=
  alt [seq [op "=", ref .expression],
    hint (refuse (seq [mark (op "="), ahead (alt [op ")", op ","])])
      (.atMark "expected default value expression"))]

section
variable (k : ParameterPlace)

/-- A parameter ends at a comma, or before the end of the list. -/
def ended (p : Phrase) : Phrase :=
  alt [seq [p, op ","], seq [p, ahead k.closing]]

def plainParameter : Phrase := ended k k.parameter
def defaultParameter : Phrase := ended k (seq [k.parameter, default])
def anyParameter : Phrase := ended k (seq [k.parameter, optional default])

/-- Behind a slash there is a comma or the end of the list. -/
def slash (p : Phrase) : Phrase :=
  alt [seq [p, op "/", op ","], seq [p, op "/", ahead k.closing]]

def slashPlain : Phrase := slash k (many1 (plainParameter k))
def slashDefault : Phrase := slash k (seq [many (plainParameter k), many1 (defaultParameter k)])

/-- The parameter that takes the remaining keyword arguments. -/
def keywordRest : Phrase :=
  alt [
    hint (refuse (seq [op "**", k.parameter, mark (op "=")])
      (.atMark "var-keyword argument cannot have default value")),
    hint (refuse (seq [op "**", k.parameter, op ",", mark k.parameter])
      (.atMark "arguments cannot follow var-keyword argument")),
    hint (refuse (seq [op "**", k.parameter, op ",", mark (alt [op "*", op "**", op "/"])])
      (.atMark "arguments cannot follow var-keyword argument")),
    seq [op "**", plainParameter k]]

/-- Mistakes behind a star. -/
def starMistakes : List Phrase :=
  [hint (refuse (seq [mark (op "*"),
      alt [k.closing, seq [op ",", alt [k.closing, op "**"]]]])
      (match k with
        | .function => .atMark "named arguments must follow bare *"
        | .lambda => .here "named arguments must follow bare *")),
    hint (refuse (seq [op "*", k.parameter, mark (op "=")])
      (.atMark "var-positional argument cannot have default value")),
    hint (refuse (seq [op "*", alt [plainParameter k, op ","], many (anyParameter k),
      mark (op "*"), alt [plainParameter k, op ","]])
      (.atMark "* argument may appear only once"))]

/-- A star with all that may follow it. -/
def starPart : Phrase :=
  alt (starMistakes k ++ [
    seq [op "*", plainParameter k, many (anyParameter k), optional (keywordRest k)]] ++
    (match k with
      | .function =>
        [seq [op "*", ended k (seq [anyName, op ":", ref .starExpression]),
          many (anyParameter k), optional (keywordRest k)]]
      | .lambda => []) ++
    [seq [op "*", op ",", many1 (anyParameter k), optional (keywordRest k)],
    keywordRest k])

/-- Mistakes in the order of parameters. -/
def parameterMistakes : List Phrase :=
  [hint (refuse (seq [many (plainParameter k),
      alt [slashDefault k, many1 (defaultParameter k)], mark (plainParameter k)])
      (.atMark "non-default argument follows default argument")),
    hint (refuse (seq [many (plainParameter k), mark (op "("),
      (match k with
        | .function => many1 (plainParameter k)
        | .lambda => commaList k.parameter), optional (op ","), op ")"])
      (.atMark (k.title ++ " parameters cannot be parenthesized"))),
    hint (refuse (seq [mark (op "/"), op ","])
      (.atMark "at least one argument must precede /")),
    hint (refuse (seq [alt [slashPlain k, slashDefault k], many (anyParameter k), mark (op "/")])
      (.atMark "/ may appear only once")),
    hint (refuse (seq [optional (alt [slashPlain k, slashDefault k]), many (anyParameter k),
      op "*", alt [op ",", plainParameter k], many (anyParameter k), mark (op "/")])
      (.atMark "/ must be ahead of *")),
    hint (refuse (seq [many1 (anyParameter k), op "/", mark (op "*")])
      (.atMark "expected comma between / and *"))]

/-- A parameter list. -/
def parameters : Phrase :=
  alt (parameterMistakes k ++ [
    seq [slashPlain k, many (plainParameter k), many (defaultParameter k), optional (starPart k)],
    seq [slashDefault k, many (defaultParameter k), optional (starPart k)],
    seq [many1 (plainParameter k), many (defaultParameter k), optional (starPart k)],
    seq [many1 (defaultParameter k), optional (starPart k)],
    starPart k])

end
end NodeLint.Source.Phrase
