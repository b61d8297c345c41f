import NodeLint.Source.Peg
import NodeLint.Source.StringLiteral
import NodeLint.Text.NormalForm

/-!
# Complaints

The place and the words of each complaint, computed from the trees that the refused construct
left and from how far the tokens have been read.
-/

namespace NodeLint.Source

/-- Where a text comes from: for the expression of a field, how far its columns are off; and how the
expressions of its own fields are checked. -/
structure Context where
  offset : Option Nat
  check : Field → Option Fault

/-- Words about a text; those about a field say so. -/
def Context.words (x : Context) (message : String) : String :=
  if x.offset.isSome then "f-string: " ++ message else message

/-- What a complaint can see: the text, its tokens, where it comes from, how many tokens have been
read, and the position behind the construct. -/
structure Scene where
  text : SourceText
  tokens : Array Token
  context : Context
  reached : Nat
  position : Nat

namespace Scene

/-- The last token read. -/
def lastRead? (s : Scene) : Option Token := s.tokens[s.reached - 1]?

/-- A fault at a byte offset of a line. -/
def faultAt (s : Scene) (line bytes : Nat) (message : String) : Fault :=
  let bytes := bytes - s.context.offset.getD 0
  let message := s.context.words message
  match s.lastRead? with
  | some k => ⟨line, max 1 (s.text.column k.chunk k.span.endLine line bytes), message⟩
  | none => ⟨line, max 1 bytes, message⟩

/-- A fault at a token. -/
def faultAtToken (s : Scene) (k : Token) (message : String) : Fault :=
  s.faultAt k.span.line (if k.hasColumn then k.span.column + 1 else 0) message

/-- A fault at the last token read; a token without a column is where the reader stands. -/
def faultHere (s : Scene) (message : String) : Fault :=
  match s.lastRead? with
  | some k => s.faultAt k.span.line (if k.hasColumn then k.span.column + 1 else k.cursor) message
  | none => ⟨1, 1, message⟩

/-- A fault at the start of a tree. -/
def faultAtTree (s : Scene) (t : Tree) (message : String) : Fault :=
  s.faultAt t.span.line (t.span.column + 1) message

end Scene

/-- The name a tree consists of. -/
def Tree.nameText? : Tree → Option String
  | .node .name _ [.leaf k] => some (Text.normalName k.text)
  | _ => none

/-- The part that a complaint is about. -/
def Tree.marked? (trees : List Tree) : Option Tree :=
  (Tree.find? .mark trees).bind fun t => t.children.head?

/-- Whether the first operator of a chain of comparisons is a membership test. -/
def Tree.startsWithMembership : Tree → Bool
  | .node .comparison _ (c :: _) =>
    match c with
    | .node .comparison _ _ => c.startsWithMembership
    | .node .membership _ _ => c.startsWithMembership
    | _ => false
  | .node .membership _ (c :: _) =>
    match c with
    | .node .comparison _ _ => c.startsWithMembership
    | .node .membership _ _ => c.startsWithMembership
    | _ => true
  | _ => true

mutual

/-- The first part of a target that cannot be assigned to or deleted. -/
def Tree.badTarget? (use : TargetUse) : Tree → Option Tree
  | .leaf _ => none
  | .node .list _ cs => badTargetIn? use cs
  | .node .tuple _ cs => badTargetIn? use cs
  | .node .starred s cs => if use = .delete then some (.node .starred s cs) else badTargetIn? use cs
  | .node .comparison s cs =>
    if use ≠ .loop then some (.node .comparison s cs)
    else if Tree.startsWithMembership (.node .comparison s cs) then badLoopTarget? cs
    else none
  | .node .membership s cs =>
    if use ≠ .loop then some (.node .membership s cs)
    else if Tree.startsWithMembership (.node .membership s cs) then badLoopTarget? cs
    else none
  | .node .name _ _ => none
  | .node .subscript _ _ => none
  | .node .attribute _ _ => none
  | .node k s cs => some (.node k s cs)

/-- The first bad part of several targets. -/
def badTargetIn? (use : TargetUse) : List Tree → Option Tree
  | [] => none
  | t :: ts => (t.badTarget? use).or (badTargetIn? use ts)

/-- The bad part of what stands before the first operator of a chain of comparisons. -/
def badLoopTarget? : List Tree → Option Tree
  | [] => none
  | .node .comparison _ cs :: _ => badLoopTarget? cs
  | .node .membership _ cs :: _ => badLoopTarget? cs
  | t :: _ => t.badTarget? .loop

end

/-- Statements that have become functions. -/
def formerStatements : List String := ["print", "exec"]

/-- The tokens among trees. -/
def leafTokens (trees : List Tree) : List Token :=
  trees.filterMap fun
    | .leaf k => some k
    | .node _ _ _ => none

/-- A fault of a string literal; words without a place are about the last token read. -/
def Scene.stringFault (s : Scene) : StringFault → Fault
  | .words message => s.faultHere message
  | .inside fault => fault

/-- The most digits that a decimal integer may have. -/
def maxDigits : Nat := 4300

/-- The words for a decimal integer with more digits. -/
def tooManyDigits (digits : Nat) : String :=
  "Exceeds the limit (" ++ toString maxDigits ++ " digits) for integer string conversion: value " ++
    "has " ++ toString digits ++ " digits; use sys.set_int_max_str_digits() to increase the limit" ++
    " - Consider hexadecimal for huge integer literals to avoid decimal conversion limits."

/-- Whether a number literal is imaginary. -/
def isImaginary (text : String) : Bool :=
  text.toList.getLast?.any fun c => c = 'j' || c = 'J'

/-- The positional arguments among the parts of a call. -/
def positionalArguments (arguments : List Tree) : List Tree :=
  arguments.filter fun t => t.kind? ≠ some .keyword && t.kind? ≠ some .unpacking

/-- The fault a complaint amounts to, if it has something to say about these trees. -/
def Complaint.fault? (s : Scene) (trees : List Tree) : Complaint → Option Fault
  | .here message => some (s.faultHere message)
  | .atMark message =>
    ((Tree.marked? trees).or (Tree.find? .mark trees)).map fun t => s.faultAtTree t message
  | .missingBlock construct =>
    (Tree.find? .mark trees).map fun t =>
      s.faultHere ("expected an indented block after " ++ construct ++ " on line " ++
        toString t.span.line)
  | .describing before after =>
    (Tree.marked? trees).map fun t =>
      s.faultAtTree t (before ++ t.describe ++ after)
  | .badTarget use => do
    let target ← Tree.marked? trees
    let bad ← target.badTarget? use
    let verb := if use = .delete then "cannot delete " else "cannot assign to "
    return s.faultAtTree bad (verb ++ bad.describe)
  | .missingComma => do
    let first ← Tree.marked? trees
    let last ← s.tokens[s.position - 1]?
    if last.depth = 0 || first.nameText?.any formerStatements.contains then none
    else return s.faultAtTree first "invalid syntax. Perhaps you forgot a comma?"
  | .missingParentheses => do
    let first ← Tree.marked? trees
    let name ← first.nameText?
    if formerStatements.contains name then
      return s.faultAtTree first
        ("Missing parentheses in call to '" ++ name ++ "'. Did you mean " ++ name ++ "(...)?")
    else none
  | .missingColon =>
    (Tree.marked? trees).map fun t =>
      s.faultAt t.span.line t.span.endColumn "':' expected after dictionary key"
  | .bareGenerator => do
    let arguments := positionalArguments ((Tree.find? .mark trees).map Tree.children |>.getD [])
    let last ← arguments.getLast?
    if arguments.length ≤ 1 then none
    else return s.faultAtTree last "Generator expression must be parenthesized"
  | .argumentOrder =>
    let arguments := (Tree.find? .mark trees).map Tree.children |>.getD []
    some (s.faultHere (if arguments.any fun t => t.kind? = some .unpacking
      then "positional argument follows keyword argument unpacking"
      else "positional argument follows keyword argument"))
  | .badStrings => (badStrings? s.context.check none (leafTokens trees)).map s.stringFault
  | .longNumber => do
    let k ← s.tokens[s.position - 1]?
    let digits := k.text.toList.filter (· ≠ '_')
    if maxDigits < digits.length && digits.head? ≠ some '0' && digits.all Char.isDigit then
      return s.faultAt k.span.line 0 (tooManyDigits digits.length)
    else none
  | .notReal => do
    let t ← trees.head?
    if isImaginary t.text then return s.faultAtTree t "real number required in complex literal"
    else none
  | .notImaginary => do
    let t ← trees.head?
    if isImaginary t.text then none
    else return s.faultAtTree t "imaginary number required in complex literal"

end NodeLint.Source
