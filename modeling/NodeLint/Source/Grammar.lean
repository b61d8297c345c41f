import NodeLint.Source.Grammar.Statement
import NodeLint.Source.Grammar.Target
import NodeLint.Source.Grammar.Pattern
import NodeLint.Source.Derivation

/-!
# The grammar of the analysed language

The table of all rules.
-/

namespace NodeLint.Source

/-- The parsing expression of a rule. -/
def Rule.body : Rule → Phrase
  | .file => Phrase.file
  | .statements => Phrase.statements
  | .statement => Phrase.statement
  | .simpleStatements => Phrase.simpleStatements
  | .simpleStatement => Phrase.simpleStatement
  | .compoundStatement => Phrase.compoundStatement
  | .assignment => Phrase.assignment
  | .block => Phrase.block
  | .functionDef => Phrase.functionDef
  | .functionDefRaw => Phrase.functionDefRaw
  | .classDef => Phrase.classDef
  | .classDefRaw => Phrase.classDefRaw
  | .ifStatement => Phrase.ifStatement
  | .elifStatement => Phrase.elifStatement
  | .elseBlock => Phrase.elseBlock
  | .whileStatement => Phrase.whileStatement
  | .forStatement => Phrase.forStatement
  | .withStatement => Phrase.withStatement
  | .tryStatement => Phrase.tryStatement
  | .matchStatement => Phrase.matchStatement
  | .exceptBlock => Phrase.exceptBlock
  | .exceptStarBlock => Phrase.exceptStarBlock
  | .finallyBlock => Phrase.finallyBlock
  | .caseBlock => Phrase.caseBlock
  | .patterns => Phrase.patterns
  | .pattern => Phrase.pattern
  | .orPattern => Phrase.orPattern
  | .closedPattern => Phrase.closedPattern
  | .maybeSequencePattern => Phrase.maybeSequencePattern
  | .openSequencePattern => Phrase.openSequencePattern
  | .starPattern => Phrase.starPattern
  | .expressions => Phrase.expressions
  | .expression => Phrase.expression
  | .expressionWithoutHints => Phrase.expressionWithoutHints
  | .yieldExpression => Phrase.yieldExpression
  | .starExpressions => Phrase.starExpressions
  | .starExpression => Phrase.starExpression
  | .starNamedExpressions => Phrase.starNamedExpressions
  | .starNamedExpression => Phrase.starNamedExpression
  | .assignmentExpression => Phrase.assignmentExpression
  | .namedExpression => Phrase.namedExpression
  | .disjunction => Phrase.disjunction
  | .conjunction => Phrase.conjunction
  | .inversion => Phrase.inversion
  | .comparison => Phrase.comparison
  | .bitwiseOr => Phrase.bitwiseOr
  | .bitwiseXor => Phrase.bitwiseXor
  | .bitwiseAnd => Phrase.bitwiseAnd
  | .shift => Phrase.shift
  | .sum => Phrase.sum
  | .term => Phrase.term
  | .factor => Phrase.factor
  | .power => Phrase.power
  | .awaitPrimary => Phrase.awaitPrimary
  | .primary => Phrase.primary
  | .slices => Phrase.slices
  | .atom => Phrase.atom
  | .group => Phrase.group
  | .lambda => Phrase.lambda
  | .strings => Phrase.strings
  | .list => Phrase.list
  | .tuple => Phrase.tuple
  | .dict => Phrase.dict
  | .set => Phrase.set
  | .listComprehension => Phrase.listComprehension
  | .setComprehension => Phrase.setComprehension
  | .dictComprehension => Phrase.dictComprehension
  | .generator => Phrase.generator
  | .forIfClauses => Phrase.forIfClauses
  | .arguments => Phrase.arguments
  | .args => Phrase.args
  | .kwargs => Phrase.kwargs
  | .starTargets => Phrase.starTargets
  | .starTarget => Phrase.starTarget
  | .targetWithStarAtom => Phrase.targetWithStarAtom
  | .singleTarget => Phrase.singleTarget
  | .targetPrimary => Phrase.targetPrimary
  | .deleteTargets => Phrase.deleteTargets
  | .deleteTarget => Phrase.deleteTarget
  | .invalidNamedExpression => Phrase.namedExpressionMistakes
  | .invalidAnnotationTarget => Phrase.invalidAnnotationTarget

/-- The grammar of the analysed language. -/
def language : Grammar Rule := ⟨Rule.body, Rule.remembered, .file, .starExpressions⟩

end NodeLint.Source
