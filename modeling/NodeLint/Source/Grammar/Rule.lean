import NodeLint.Source.Peg

/-!
# Rules of the analysed language

The rules of the grammar by name, the ones whose results are remembered, and the few shapes that
all rules are written with.
-/

namespace NodeLint.Source

/-- The rules of the grammar. -/
inductive Rule where
  | file
  | statements
  | statement
  | simpleStatements
  | simpleStatement
  | compoundStatement
  | assignment
  | block
  | functionDef
  | functionDefRaw
  | classDef
  | classDefRaw
  | ifStatement
  | elifStatement
  | elseBlock
  | whileStatement
  | forStatement
  | withStatement
  | tryStatement
  | matchStatement
  | exceptBlock
  | exceptStarBlock
  | finallyBlock
  | caseBlock
  | patterns
  | pattern
  | orPattern
  | closedPattern
  | maybeSequencePattern
  | openSequencePattern
  | starPattern
  | expressions
  | expression
  | expressionWithoutHints
  | yieldExpression
  | starExpressions
  | starExpression
  | starNamedExpressions
  | starNamedExpression
  | assignmentExpression
  | namedExpression
  | disjunction
  | conjunction
  | inversion
  | comparison
  | bitwiseOr
  | bitwiseXor
  | bitwiseAnd
  | shift
  | sum
  | term
  | factor
  | power
  | awaitPrimary
  | primary
  | slices
  | atom
  | group
  | lambda
  | strings
  | list
  | tuple
  | dict
  | set
  | listComprehension
  | setComprehension
  | dictComprehension
  | generator
  | forIfClauses
  | arguments
  | args
  | kwargs
  | starTargets
  | starTarget
  | targetWithStarAtom
  | singleTarget
  | targetPrimary
  | deleteTargets
  | deleteTarget
  | invalidNamedExpression
  | invalidAnnotationTarget
deriving Repr, DecidableEq

namespace Rule

/-- Rules that are asked for again and again at one position. -/
def remembered : Rule → Bool
  | .simpleStatement | .block | .closedPattern | .starPattern | .expression | .starExpression
  | .disjunction | .conjunction | .inversion | .bitwiseOr | .bitwiseXor | .bitwiseAnd | .shift
  | .sum | .term | .factor | .awaitPrimary | .primary | .strings | .arguments | .starTarget
  | .targetWithStarAtom | .targetPrimary | .deleteTarget | .invalidNamedExpression => true
  | _ => false

end Rule

/-- A parsing expression of this grammar. -/
abbrev Phrase := Peg Rule

namespace Phrase

/-- A keyword. -/
def word (s : String) : Phrase := .terminal (.word s)

/-- An operator. -/
def op (s : String) : Phrase := .terminal (.op s)

/-- A rule by name. -/
def ref (r : Rule) : Phrase := .rule r

/-- A name that leaves no tree. -/
def anyName : Phrase := .terminal .name

/-- A name as an expression. -/
def name : Phrase := .node .name (.keep .name)

/-- A name that is kept. -/
def keptName : Phrase := .keep .name

/-- A number that leaves no tree. -/
def number : Phrase := .checked (.terminal .number) .longNumber

/-- A number that is kept. -/
def keptNumber : Phrase := .checked (.keep .number) .longNumber

def newline : Phrase := .terminal .newline
def indent : Phrase := .terminal .indent
def dedent : Phrase := .terminal .dedent

/-- One or more with commas between. -/
def commaList (p : Phrase) : Phrase := .sepBy p (op ",")

/-- The part that a complaint is about. -/
def mark (p : Phrase) : Phrase := .node .mark p

end Phrase
end NodeLint.Source
