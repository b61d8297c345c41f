import NodeLint.Source.Grammar.Expression

/-!
# Statements

A statement that holds statements is labelled together with them: its tree lists the statements of
its blocks in the order of the text. Handlers and cases are arms of their own inside it.
-/

namespace NodeLint.Source.Phrase

open Peg

def file : Phrase := seq [optional (ref .statements), terminal .endMarker]

def statements : Phrase := many1 (ref .statement)

def statement : Phrase := alt [ref .compoundStatement, ref .simpleStatements]

def simpleStatements : Phrase :=
  alt [
    seq [ref .simpleStatement, notAhead (op ";"), newline],
    seq [sepBy (ref .simpleStatement) (op ";"), optional (op ";"), newline]]

/-! ## Simple statements -/

/-- Operators that assign. -/
def augmentedOperators : List String :=
  ["+=", "-=", "*=", "@=", "/=", "%=", "&=", "|=", "^=", "<<=", ">>=", "**=", "//="]

def augmentedOperator : Phrase := alt (augmentedOperators.map op)

/-- Targets that cannot be assigned to. -/
def assignmentMistakes : Phrase :=
  hint (alt [
    refuse (seq [mark (ref .invalidAnnotationTarget), op ":", ref .expression])
      (.describing "only single target (not " ") can be annotated"),
    refuse (seq [mark (ref .starNamedExpression), op ",", many (ref .starNamedExpressions), op ":",
      ref .expression]) (.atMark "only single target (not tuple) can be annotated"),
    refuse (seq [mark (ref .expression), op ":", ref .expression])
      (.atMark "illegal target for annotation"),
    refuse (seq [many (seq [ref .starTargets, op "="]), mark (ref .starExpressions), op "="])
      (.badTarget .assign),
    refuse (seq [many (seq [ref .starTargets, op "="]), mark (ref .yieldExpression), op "="])
      (.atMark "assignment to yield expression not possible"),
    refuse (seq [mark (ref .starExpressions), augmentedOperator, assignedValue])
      (.describing "'" "' is an illegal expression for augmented assignment")])

def invalidAnnotationTarget : Phrase :=
  alt [ref .list, ref .tuple, seq [op "(", ref .invalidAnnotationTarget, op ")"]]

/-- An annotation, with a value if there is one. -/
def annotation : Phrase :=
  seq [op ":", ref .expression, optional (seq [op "=", assignedValue])]

/-- An attribute or a subscript that can be annotated. -/
def annotatedMember : Phrase :=
  alt [
    seq [op "(", ref .singleTarget, op ")"],
    node .attribute (seq [ref .targetPrimary, op ".", keptName,
      notAhead (alt [op "(", op "[", op "."])]),
    node .subscript (seq [ref .targetPrimary, op "[", ref .slices, op "]",
      notAhead (alt [op "(", op "[", op "."])])]

def assignment : Phrase :=
  node .simple (alt [
    seq [name, annotation],
    seq [annotatedMember, annotation],
    seq [many1 (seq [ref .starTargets, op "="]), assignedValue, notAhead (op "=")],
    commit (seq [ref .singleTarget, augmentedOperator]) assignedValue assignmentMistakes])

def returnStatement : Phrase := seq [word "return", optional (ref .starExpressions)]

def raiseStatement : Phrase :=
  alt [
    seq [word "raise", ref .expression, optional (seq [word "from", ref .expression])],
    word "raise"]

def deleteStatement : Phrase :=
  alt [
    seq [word "del", ref .deleteTargets, ahead (alt [op ";", newline])],
    hint (alt [refuse (seq [word "del", mark (ref .starExpressions)]) (.badTarget .delete)])]

def assertStatement : Phrase :=
  seq [word "assert", ref .expression, optional (seq [op ",", ref .expression])]

/-- A statement that declares names. -/
def declaration (keyword : String) : Phrase := seq [word keyword, commaList anyName]

/-- A module name. -/
def dottedName : Phrase := seq [keptName, many (seq [op ".", keptName])]

def importName : Phrase :=
  node .simple (seq [word "import",
    commaList (seq [dottedName, optional (seq [word "as", anyName])])])

/-- An imported name, and the name it is bound to. -/
def importAlias : Phrase := node .importAlias (seq [keptName, optional (seq [word "as", keptName])])

/-- The imported names. -/
def importTargets : Phrase :=
  alt [
    seq [op "(", commaList importAlias, optional (op ","), op ")"],
    seq [commaList importAlias, notAhead (op ",")],
    node .importAlias (keep (.op "*")),
    hint (refuse (seq [commaList importAlias, op ",", newline])
      (.here "trailing comma not allowed without surrounding parentheses"))]

def importFrom : Phrase :=
  let dot := alt [keep (.op "."), keep (.op "...")]
  node .importFrom (alt [
    seq [word "from", node .importModule (seq [many dot, dottedName]), word "import",
      importTargets],
    seq [word "from", node .importModule (many1 dot), word "import", importTargets]])

def simpleStatement : Phrase :=
  alt [
    ref .assignment,
    node .expressionStatement (ref .starExpressions),
    seq [ahead (word "return"), node .simple returnStatement],
    seq [ahead (alt [word "import", word "from"]), alt [importName, importFrom]],
    seq [ahead (word "raise"), node .simple raiseStatement],
    node .simple (word "pass"),
    seq [ahead (word "del"), node .simple deleteStatement],
    seq [ahead (word "yield"), node .expressionStatement (ref .yieldExpression)],
    seq [ahead (word "assert"), node .simple assertStatement],
    node .simple (word "break"),
    node .simple (word "continue"),
    seq [ahead (word "global"), node .simple (declaration "global")],
    seq [ahead (word "nonlocal"), node .simple (declaration "nonlocal")]]

/-! ## Blocks -/

def block : Phrase :=
  alt [
    seq [newline, indent, ref .statements, dedent],
    ref .simpleStatements,
    hint (refuse (seq [newline, notAhead indent]) (.here "expected an indented block"))]

/-- A header whose block is missing; `opening` holds the marked word. -/
def blockMissing (construct : String) (opening : Phrase) : Phrase :=
  hint (refuse (seq [opening, op ":", newline, notAhead indent]) (.missingBlock construct))

/-- A header without its colon. -/
def colonMissing (opening : Phrase) : Phrase :=
  hint (refuse (seq [opening, newline]) (.here "expected ':'"))

def compoundStatement : Phrase :=
  alt [
    seq [ahead (alt [word "def", op "@", word "async"]), ref .functionDef],
    seq [ahead (word "if"), ref .ifStatement],
    seq [ahead (alt [word "class", op "@"]), ref .classDef],
    seq [ahead (alt [word "with", word "async"]), ref .withStatement],
    seq [ahead (alt [word "for", word "async"]), ref .forStatement],
    seq [ahead (word "try"), ref .tryStatement],
    seq [ahead (word "while"), ref .whileStatement],
    ref .matchStatement]

/-! ## Definitions -/

def decorators : Phrase := many1 (seq [op "@", ref .namedExpression, newline])

/-- A definition with or without decorators. -/
def maybeDecorated (definition : Rule) : Phrase :=
  alt [node .decorated (seq [decorators, ref definition]), ref definition]

def functionDef : Phrase := maybeDecorated .functionDefRaw

/-- The annotation of a result. -/
def resultAnnotation : Phrase := optional (seq [op "->", ref .expression])

def functionDefRaw : Phrase :=
  let rest := [word "def", keptName, forced "(", optional (parameters .function), op ")",
    resultAnnotation, forced ":", ref .block]
  alt [
    blockMissing "function definition" (seq [optional (word "async"), mark (word "def"), anyName,
      op "(", optional (parameters .function), op ")", resultAnnotation]),
    node .function (seq rest),
    node .function (seq (word "async" :: rest))]

def classDef : Phrase := maybeDecorated .classDefRaw

def classDefRaw : Phrase :=
  let bases := optional (seq [op "(", optional (node .arguments (ref .arguments)), op ")"])
  alt [
    colonMissing (seq [word "class", anyName, bases]),
    blockMissing "class definition" (seq [mark (word "class"), anyName, bases]),
    node .classDef (seq [word "class", keptName, bases, op ":", ref .block])]

/-! ## Branches and loops -/

/-- A branch that is opened by a word and a condition, with what may follow its block. -/
def branch (keyword : String) : Phrase :=
  let header := [word keyword, ref .namedExpression]
  alt [
    colonMissing (seq header),
    blockMissing ("'" ++ keyword ++ "' statement")
      (seq [mark (word keyword), ref .namedExpression]),
    node .compound (seq (header ++ [op ":", ref .block, ref .elifStatement])),
    node .compound (seq (header ++ [op ":", ref .block, optional (ref .elseBlock)]))]

def ifStatement : Phrase := branch "if"
def elifStatement : Phrase := branch "elif"

def elseBlock : Phrase :=
  alt [
    blockMissing "'else' statement" (mark (word "else")),
    seq [word "else", forced ":", ref .block]]

def whileStatement : Phrase :=
  alt [
    colonMissing (seq [word "while", ref .namedExpression]),
    blockMissing "'while' statement" (seq [mark (word "while"), ref .namedExpression]),
    node .compound (seq [word "while", ref .namedExpression, op ":", ref .block,
      optional (ref .elseBlock)])]

def forStatement : Phrase :=
  let body := seq [ref .starExpressions, op ":", ref .block, optional (ref .elseBlock)]
  let header := [word "for", ref .starTargets, word "in"]
  alt [
    colonMissing (seq (optional (word "async") :: header ++ [ref .starExpressions])),
    blockMissing "'for' statement" (seq [optional (word "async"), mark (word "for"),
      ref .starTargets, word "in", ref .starExpressions]),
    node .compound (commit (seq header) body
      (commit (seq (word "async" :: header)) body loopTargetMistake))]

/-- One context of a with statement. -/
def withItem : Phrase :=
  let behind := ahead (alt [op ",", op ")", op ":"])
  alt [
    seq [ref .expression, word "as", ref .starTarget, behind],
    hint (alt [refuse (seq [ref .expression, word "as", mark (ref .expression), behind])
      (.badTarget .assign)]),
    ref .expression]

def withStatement : Phrase :=
  let start := [optional (word "async"), mark (word "with")]
  let plainItems := commaList (seq [ref .expression, optional (seq [word "as", ref .starTarget])])
  let groupedItems := [op "(",
    commaList (seq [ref .expressions, optional (seq [word "as", ref .starTarget])]),
    optional (op ","), op ")"]
  let grouped := [word "with", op "(", commaList withItem, optional (op ","), op ")", op ":",
    ref .block]
  let plain := [word "with", commaList withItem, op ":", ref .block]
  alt [
    blockMissing "'with' statement" (seq (start ++ [plainItems])),
    blockMissing "'with' statement" (seq (start ++ groupedItems)),
    node .compound (seq grouped),
    node .compound (seq plain),
    node .compound (seq (word "async" :: grouped)),
    node .compound (seq (word "async" :: plain)),
    colonMissing (seq (start ++ [plainItems])),
    colonMissing (seq (start ++ groupedItems))]

/-! ## Exceptions -/

/-- The name an exception is bound to. -/
def boundAs : Phrase := optional (seq [word "as", anyName])

/-- Handlers of one kind, and the header of one of the other kind. -/
def mixedHandlers (handlers : Phrase) : Phrase :=
  hint (refuse (seq [word "try", op ":", many (ref .block), handlers, op ":"])
    (.atMark "cannot have both 'except' and 'except*' on the same 'try'"))

def tryStatement : Phrase :=
  let body := [word "try", forced ":", ref .block]
  let ending := [optional (ref .elseBlock), optional (ref .finallyBlock)]
  alt [
    blockMissing "'try' statement" (mark (word "try")),
    hint (refuse (seq [word "try", op ":", ref .block,
      notAhead (alt [word "except", word "finally"])])
      (.here "expected 'except' or 'finally' block")),
    mixedHandlers (seq [many1 (ref .exceptBlock), mark (word "except"), op "*", ref .expression,
      boundAs]),
    mixedHandlers (seq [many1 (ref .exceptStarBlock), mark (word "except"),
      optional (seq [ref .expression, boundAs])]),
    node .compound (seq (body ++ [ref .finallyBlock])),
    node .compound (seq (body ++ [many1 (ref .exceptBlock)] ++ ending)),
    node .compound (seq (body ++ [many1 (ref .exceptStarBlock)] ++ ending))]

/-- Mistakes in the header of a handler. -/
def handlerMistakes : Phrase :=
  hint (alt [
    refuse (seq [word "except", optional (op "*"), mark (ref .expression), op ",",
      ref .expressions, boundAs, op ":"])
      (.atMark "multiple exception types must be parenthesized"),
    refuse (seq [word "except", optional (op "*"), ref .expression, boundAs, newline])
      (.here "expected ':'"),
    refuse (seq [word "except", newline]) (.here "expected ':'"),
    refuse (seq [word "except", op "*", alt [newline, op ":"]])
      (.here "expected one or more exception types")])

def exceptBlock : Phrase :=
  alt [
    blockMissing "'except' statement" (seq [mark (word "except"), ref .expression, boundAs]),
    blockMissing "'except' statement" (mark (word "except")),
    node .arm (seq [word "except", ref .expression, boundAs, op ":", ref .block]),
    node .arm (seq [word "except", op ":", ref .block]),
    handlerMistakes]

def exceptStarBlock : Phrase :=
  alt [
    blockMissing "'except*' statement"
      (seq [mark (word "except"), op "*", ref .expression, boundAs]),
    node .arm (seq [word "except", op "*", ref .expression, boundAs, op ":", ref .block]),
    handlerMistakes]

def finallyBlock : Phrase :=
  alt [
    blockMissing "'finally' statement" (mark (word "finally")),
    seq [word "finally", forced ":", ref .block]]

/-! ## Matching -/

/-- The subject of a match statement. -/
def subject : Phrase :=
  alt [
    node .tuple (seq [ref .starNamedExpression, op ",", optional (ref .starNamedExpressions)]),
    ref .namedExpression]

def matchStatement : Phrase :=
  alt [
    node .compound (seq [word "match", subject, op ":", newline, indent, many1 (ref .caseBlock),
      dedent]),
    colonMissing (seq [word "match", subject]),
    blockMissing "'match' statement" (seq [mark (word "match"), subject])]

def caseBlock : Phrase :=
  let guard := optional (seq [word "if", ref .namedExpression])
  alt [
    colonMissing (seq [word "case", ref .patterns, guard]),
    blockMissing "'case' statement" (seq [mark (word "case"), ref .patterns, guard]),
    node .arm (seq [word "case", ref .patterns, guard, op ":", ref .block])]

end NodeLint.Source.Phrase
