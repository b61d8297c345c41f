import NodeLint.Source.Grammar.Rule

/-!
# Targets

What may be assigned to, looped over or deleted: names, attributes, subscripts, and sequences of
targets.
-/

namespace NodeLint.Source.Phrase

open Peg

/-- The start of a further attribute, subscript or call. -/
def goesOn : Phrase := alt [op "(", op "[", op "."]

def targetPrimary : Phrase :=
  chain (seq [ref .atom, ahead goesOn]) [
    (.attribute, seq [op ".", keptName, ahead goesOn]),
    (.subscript, seq [op "[", ref .slices, op "]", ahead goesOn]),
    (.call, seq [ref .generator, ahead goesOn]),
    (.call, seq [op "(", optional (ref .arguments), op ")", ahead goesOn])]

/-- An attribute or a subscript that is not taken further. -/
def memberTargets : List Phrase :=
  [node .attribute (seq [ref .targetPrimary, op ".", keptName, notAhead goesOn]),
    node .subscript (seq [ref .targetPrimary, op "[", ref .slices, op "]", notAhead goesOn])]

def starTargets : Phrase :=
  alt [
    seq [ref .starTarget, notAhead (op ",")],
    node .tuple (seq [ref .starTarget, many (seq [op ",", ref .starTarget]), optional (op ",")])]

def starTarget : Phrase :=
  alt [
    node .starred (seq [op "*", notAhead (op "*"), ref .starTarget]),
    ref .targetWithStarAtom]

/-- The elements of a tuple of targets. -/
def targetTuple : Phrase :=
  alt [
    seq [ref .starTarget, many1 (seq [op ",", ref .starTarget]), optional (op ",")],
    seq [ref .starTarget, op ","]]

def targetWithStarAtom : Phrase :=
  alt (memberTargets ++ [
    name,
    seq [op "(", ref .targetWithStarAtom, op ")"],
    node .tuple (seq [op "(", optional targetTuple, op ")"]),
    node .list (seq [op "[", optional (seq [commaList (ref .starTarget), optional (op ",")]),
      op "]"])])

/-- An attribute or a subscript. -/
def memberTarget : Phrase := alt memberTargets

def singleTarget : Phrase :=
  alt [memberTarget, name, seq [op "(", ref .singleTarget, op ")"]]

def deleteTargets : Phrase := seq [commaList (ref .deleteTarget), optional (op ",")]

def deleteTarget : Phrase :=
  alt (memberTargets ++ [
    name,
    seq [op "(", ref .deleteTarget, op ")"],
    node .tuple (seq [op "(", optional (ref .deleteTargets), op ")"]),
    node .list (seq [op "[", optional (ref .deleteTargets), op "]"])])

end NodeLint.Source.Phrase
