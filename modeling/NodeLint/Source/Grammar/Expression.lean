import NodeLint.Source.Grammar.Parameter

/-!
# Expressions

From the loosest binding construct to the atoms, and the arguments of calls. A parenthesised
expression is the expression inside the parentheses.
-/

namespace NodeLint.Source.Phrase

open Peg

def expressions : Phrase :=
  alt [
    node .tuple (seq [ref .expression, many1 (seq [op ",", ref .expression]), optional (op ",")]),
    node .tuple (seq [ref .expression, op ","]),
    ref .expression]

/-- Two expressions side by side, and half a conditional. -/
def expressionMistakes : Phrase :=
  alt [
    refuse (seq [notAhead (alt [seq [anyName, terminal .string], terminal .softKeyword]),
      mark (ref .disjunction), ref .expressionWithoutHints]) .missingComma,
    refuse (seq [mark (ref .disjunction), word "if", ref .disjunction,
      notAhead (alt [word "else", op ":"])])
      (.atMark "expected 'else' after 'if' expression")]

/-- A call written as a statement. -/
def formerStatement : Phrase :=
  alt [refuse (seq [mark name, notAhead (op "("), ref .starExpressions]) .missingParentheses]

def conditional : Phrase :=
  node .conditional (seq [ref .disjunction, word "if", ref .disjunction, word "else",
    ref .expression])

def expression : Phrase :=
  alt [hint expressionMistakes, hint formerStatement, conditional, ref .disjunction, ref .lambda]

def expressionWithoutHints : Phrase :=
  plain (alt [conditional, ref .disjunction, ref .lambda])

def yieldExpression : Phrase :=
  alt [
    node .yield (seq [word "yield", word "from", ref .expression]),
    node .yield (seq [word "yield", optional (ref .starExpressions)])]

/-- What may stand on the right of an assignment. -/
def assignedValue : Phrase := alt [ref .yieldExpression, ref .starExpressions]

def starExpressions : Phrase :=
  alt [
    node .tuple (seq [ref .starExpression, many1 (seq [op ",", ref .starExpression]),
      optional (op ",")]),
    node .tuple (seq [ref .starExpression, op ","]),
    ref .starExpression]

/-- An expression with a star before it. -/
def starredOperand : Phrase := node .starred (seq [op "*", ref .bitwiseOr])

def starExpression : Phrase := alt [starredOperand, ref .expression]

def starNamedExpressions : Phrase :=
  seq [commaList (ref .starNamedExpression), optional (op ",")]

def starNamedExpression : Phrase := alt [starredOperand, ref .namedExpression]

def assignmentExpression : Phrase :=
  node .namedExpression (commit (seq [name, op ":="]) (ref .expression) (alt []))

/-- An expression that is not the target of an assignment expression. -/
def unnamedExpression : Phrase := seq [ref .expression, notAhead (op ":=")]

def namedExpression : Phrase :=
  alt [ref .assignmentExpression, hint (ref .invalidNamedExpression), unnamedExpression]

/-- No further assignment follows. -/
def noAssignment : Phrase := notAhead (alt [op "=", op ":="])

/-- Assignments where an expression is wanted. -/
def namedExpressionMistakes : Phrase :=
  alt [
    refuse (seq [mark (ref .expression), op ":=", ref .expression])
      (.describing "cannot use assignment expressions with " ""),
    refuse (seq [mark name, op "=", ref .bitwiseOr, noAssignment])
      (.atMark "invalid syntax. Maybe you meant '==' or ':=' instead of '='?"),
    refuse (seq [notAhead (alt [ref .list, ref .tuple, ref .generator, word "True", word "None",
      word "False"]), mark (ref .bitwiseOr), op "=", ref .bitwiseOr, noAssignment])
      (.describing "cannot assign to " " here. Maybe you meant '==' instead of '='?")]

/-! ## Operators -/

/-- Operands joined from the left by one of several operators. -/
def leftJoined (operand : Phrase) (operators : List String) : Phrase :=
  chain operand (operators.map fun s => (.operation, seq [op s, operand]))

def disjunction : Phrase :=
  chain (ref .conjunction) [(.operation, seq [word "or", ref .conjunction])]

def conjunction : Phrase :=
  chain (ref .inversion) [(.operation, seq [word "and", ref .inversion])]

def inversion : Phrase :=
  alt [node .operation (seq [word "not", ref .inversion]), ref .comparison]

def comparison : Phrase :=
  chain (ref .bitwiseOr)
    (["==", "!=", "<=", "<", ">=", ">"].map (fun s => (.comparison, seq [op s, ref .bitwiseOr])) ++
    [(.comparison, seq [word "not", word "in", ref .bitwiseOr]),
      (.membership, seq [word "in", ref .bitwiseOr]),
      (.comparison, seq [word "is", word "not", ref .bitwiseOr]),
      (.comparison, seq [word "is", ref .bitwiseOr])])

def bitwiseOr : Phrase := leftJoined (ref .bitwiseXor) ["|"]
def bitwiseXor : Phrase := leftJoined (ref .bitwiseAnd) ["^"]
def bitwiseAnd : Phrase := leftJoined (ref .shift) ["&"]
def shift : Phrase := leftJoined (ref .sum) ["<<", ">>"]
def sum : Phrase := leftJoined (ref .term) ["+", "-"]
def term : Phrase := leftJoined (ref .factor) ["*", "/", "//", "%", "@"]

def factor : Phrase :=
  alt [
    node .operation (seq [op "+", ref .factor]),
    node .operation (seq [op "-", ref .factor]),
    node .operation (seq [op "~", ref .factor]),
    ref .power]

def power : Phrase :=
  alt [node .operation (seq [ref .awaitPrimary, op "**", ref .factor]), ref .awaitPrimary]

def awaitPrimary : Phrase :=
  alt [node .await (seq [word "await", ref .primary]), ref .primary]

/-! ## Primaries and atoms -/

def primary : Phrase :=
  chain (ref .atom) [
    (.attribute, seq [op ".", keptName]),
    (.call, ref .generator),
    (.call, seq [op "(", optional (ref .arguments), op ")"]),
    (.subscript, seq [op "[", ref .slices, op "]"])]

/-- A slice or an index. -/
def slice : Phrase :=
  alt [
    node .operation (seq [optional (ref .expression), op ":", optional (ref .expression),
      optional (seq [op ":", optional (ref .expression)])]),
    ref .namedExpression]

/-- An unpacked iterable among arguments. -/
def starredArgument : Phrase :=
  alt [
    node .starred (seq [op "*", ref .expression]),
    refuse (op "*") (.here "Invalid star expression")]

def slices : Phrase :=
  alt [
    seq [slice, notAhead (op ",")],
    node .tuple (seq [commaList (alt [slice, starredArgument]), optional (op ",")])]

def atom : Phrase :=
  alt [
    name,
    node .literalTrue (word "True"),
    node .literalFalse (word "False"),
    node .literalNone (word "None"),
    seq [ahead (terminal .string), ref .strings],
    node .literal number,
    seq [ahead (op "("), alt [ref .tuple, ref .group, ref .generator]],
    seq [ahead (op "["), alt [ref .list, ref .listComprehension]],
    seq [ahead (op "\x7b"),
      alt [ref .dict, ref .set, ref .dictComprehension, ref .setComprehension]],
    node .ellipsis (op "...")]

def strings : Phrase :=
  node .literal (checked (many1 (keep .string)) .badStrings)

def group : Phrase :=
  alt [
    seq [op "(", alt [ref .yieldExpression, ref .namedExpression], op ")"],
    hint (alt [
      refuse (seq [op "(", mark starredArgument, op ")"])
        (.atMark "cannot use starred expression here"),
      refuse (seq [op "(", mark (op "**"), ref .expression, op ")"])
        (.atMark "cannot use double starred expression here")])]

def lambda : Phrase :=
  node .lambda (seq [word "lambda", optional (parameters .lambda), op ":", ref .expression])

def list : Phrase :=
  node .list (seq [op "[", optional (ref .starNamedExpressions), op "]"])

def tuple : Phrase :=
  node .tuple (seq [op "(",
    optional (seq [ref .starNamedExpression, op ",", optional (ref .starNamedExpressions)]),
    op ")"])

def set : Phrase :=
  node .set (seq [op "\x7b", ref .starNamedExpressions, op "\x7d"])

/-- A key with its value. -/
def pair : Phrase := seq [ref .expression, op ":", ref .expression]

/-- An item of a dictionary. -/
def dictItem : Phrase := alt [seq [op "**", ref .bitwiseOr], pair]

/-- Mistakes behind the colon of a dictionary item. -/
def valueMistakes : List Phrase :=
  [refuse (seq [ref .expression, op ":", mark (op "*"), ref .bitwiseOr])
      (.atMark "cannot use a starred expression in a dictionary value"),
    refuse (seq [ref .expression, mark (op ":"), ahead (alt [op "\x7d", op ","])])
      (.atMark "expression expected after dictionary key and ':'")]

def dict : Phrase :=
  alt [
    node .dict (seq [op "\x7b", optional (seq [commaList dictItem, optional (op ",")]), op "\x7d"]),
    seq [op "\x7b",
      alt (seq [commaList dictItem, op ",",
          alt (refuse (seq [mark (ref .expression), notAhead (op ":")]) .missingColon ::
            valueMistakes)] ::
        valueMistakes),
      op "\x7d"]]

/-! ## Comprehensions -/

/-- An unusable target of a loop. -/
def loopTargetMistake : Phrase :=
  hint (alt [refuse (seq [optional (word "async"), word "for", mark (ref .starExpressions)])
    (.badTarget .loop)])

/-- One loop of a comprehension. -/
def forIfClause : Phrase :=
  let rest := seq [ref .disjunction, many (seq [word "if", ref .disjunction])]
  commit (seq [word "async", word "for", ref .starTargets, word "in"]) rest
    (commit (seq [word "for", ref .starTargets, word "in"]) rest loopTargetMistake)

def forIfClauses : Phrase := many1 forIfClause

/-- Mistakes in a comprehension. -/
def comprehensionMistakes : Phrase :=
  hint (alt [
    refuse (seq [alt [op "[", op "(", op "\x7b"], mark starredArgument, ref .forIfClauses])
      (.atMark "iterable unpacking cannot be used in comprehension"),
    refuse (seq [alt [op "[", op "\x7b"], mark (ref .starNamedExpression), op ",",
      ref .starNamedExpressions, ref .forIfClauses])
      (.atMark "did you forget parentheses around the comprehension target?"),
    refuse (seq [alt [op "[", op "\x7b"], mark (ref .starNamedExpression), op ",",
      ref .forIfClauses])
      (.atMark "did you forget parentheses around the comprehension target?")])

def listComprehension : Phrase :=
  alt [
    node .listComprehension (seq [op "[", ref .namedExpression, ref .forIfClauses, op "]"]),
    comprehensionMistakes]

def setComprehension : Phrase :=
  alt [
    node .setComprehension (seq [op "\x7b", ref .namedExpression, ref .forIfClauses, op "\x7d"]),
    comprehensionMistakes]

def generator : Phrase :=
  alt [
    node .generator (seq [op "(", alt [ref .assignmentExpression, unnamedExpression],
      ref .forIfClauses, op ")"]),
    comprehensionMistakes]

def dictComprehension : Phrase :=
  alt [
    node .dictComprehension (seq [op "\x7b", pair, ref .forIfClauses, op "\x7d"]),
    hint (refuse (seq [op "\x7b", mark (op "**"), ref .bitwiseOr, ref .forIfClauses, op "\x7d"])
      (.atMark "dict unpacking cannot be used in dict comprehension"))]

/-! ## Arguments -/

/-- A positional argument. -/
def positionalArgument : Phrase :=
  alt [starredArgument,
    seq [alt [ref .assignmentExpression, unnamedExpression], notAhead (op "=")]]

def args : Phrase :=
  alt [
    seq [commaList positionalArgument, optional (seq [op ",", ref .kwargs])],
    ref .kwargs]

/-- Mistakes in a keyword argument. -/
def keywordMistakes : Phrase :=
  hint (alt [
    refuse (seq [mark (alt [node .literalTrue (word "True"), node .literalFalse (word "False"),
      node .literalNone (word "None")]), op "="]) (.describing "cannot assign to " ""),
    refuse (seq [mark name, op "=", ref .expression, ref .forIfClauses])
      (.atMark "invalid syntax. Maybe you meant '==' or ':=' instead of '='?"),
    refuse (seq [notAhead (seq [anyName, op "="]), mark (ref .expression), op "="])
      (.atMark "expression cannot contain assignment, perhaps you meant \"==\"?")])

/-- A keyword with its value. -/
def keywordArgument : Phrase := node .keyword (seq [anyName, op "=", ref .expression])

def keywordOrStarred : Phrase := alt [keywordMistakes, keywordArgument, starredArgument]

def keywordOrUnpacking : Phrase :=
  alt [keywordMistakes, keywordArgument, node .unpacking (seq [op "**", ref .expression])]

def kwargs : Phrase :=
  alt [
    seq [commaList keywordOrStarred, op ",", commaList keywordOrUnpacking],
    commaList keywordOrStarred,
    commaList keywordOrUnpacking]

/-- Mistakes in a list of arguments. -/
def argumentMistakes : Phrase :=
  hint (alt [
    refuse (seq [alt [seq [commaList positionalArgument, op ",", ref .kwargs], ref .kwargs],
      mark (op ","), commaList (seq [starredArgument, notAhead (op "=")])])
      (.atMark "iterable argument unpacking follows keyword argument unpacking"),
    refuse (seq [mark (ref .expression), ref .forIfClauses, op ",",
      optional (alt [ref .args, seq [ref .expression, ref .forIfClauses]])])
      (.atMark "Generator expression must be parenthesized"),
    refuse (seq [mark name, op "=", ref .expression, ref .forIfClauses])
      (.atMark "invalid syntax. Maybe you meant '==' or ':=' instead of '='?"),
    refuse (seq [mark (ref .args), ref .forIfClauses]) .bareGenerator,
    refuse (seq [ref .args, op ",", mark (ref .expression), ref .forIfClauses])
      (.atMark "Generator expression must be parenthesized"),
    refuse (seq [mark (ref .args), op ",", ref .args]) .argumentOrder])

def arguments : Phrase :=
  alt [seq [ref .args, optional (op ","), ahead (op ")")], argumentMistakes]

end NodeLint.Source.Phrase
