import NodeLint.Source.Complaint
import NodeLint.Source.Lexer

/-!
# Deriving a text

The interpreter of parsing expressions. A match gives the position behind it and the trees it
leaves. Besides the result, the interpreter tells how many tokens it has read: a text that matches
nothing is blamed on the last of them. Results of selected rules are remembered per position.

The fuel bounds the depth of the derivation. `deriveDepth` is ample: between two tokens no
derivation goes deeper than the grammar is large.
-/

namespace NodeLint.Source

/-- The result of matching. -/
inductive Outcome where
  | matched (position : Nat) (trees : List Tree)
  | failed
  /-- Failed, and no further alternative of the choice is to be tried. -/
  | abandoned
  | refused (fault : Fault)
  /-- The tokens ended in a fault. -/
  | unreadable (fault : Fault)

/-- What the interpreter keeps between steps: how many tokens it has read, and for each position
the remembered results, where `none` is a failure. -/
structure Progress (ρ : Type) where
  reached : Nat
  memory : Array (List (ρ × Option (Nat × List Tree)))

/-- A matcher: from a position and the progress so far to a result and the progress made. -/
abbrev Matcher (ρ : Type) := Nat → Progress ρ → Outcome × Progress ρ

/-- What stays fixed during a derivation. -/
structure Setting (ρ : Type) where
  grammar : Grammar ρ
  text : SourceText
  stream : TokenStream
  context : Context

section
variable {ρ : Type}

/-- What a complaint sees. -/
def Setting.scene (e : Setting ρ) (s : Progress ρ) (position : Nat) : Scene :=
  ⟨e.text, e.stream.tokens, e.context, s.reached, position⟩

/-- Read the token at a position and decide by it. -/
def withToken (e : Setting ρ) (decide : Token → Progress ρ → Outcome) : Matcher ρ :=
  fun position s =>
    match e.stream.tokens[position]? with
    | some k =>
      let s := { s with reached := max s.reached (position + 1) }
      (decide k s, s)
    | none =>
      match e.stream.stop with
      | some stop => (.unreadable stop.fault, s)
      | none => (.failed, s)

/-- Match one token. -/
def matchTerminal (e : Setting ρ) (t : Terminal) (keep : Bool) : Matcher ρ :=
  fun position => withToken e (fun k _ =>
    if t.accepts k then .matched (position + 1) (if keep then [.leaf k] else []) else .failed)
    position

/-- Match an operator that has to come now. -/
def matchForced (e : Setting ρ) (text : String) : Matcher ρ :=
  fun position => withToken e (fun k s =>
    if (Terminal.op text).accepts k then .matched (position + 1) []
    else .refused ((e.scene s position).faultAtToken k ("expected '" ++ text ++ "'"))) position

/-- Match one after the other; `trees` are those left so far. -/
def matchSeq (run : Peg ρ → Matcher ρ) : List (Peg ρ) → (trees : List Tree) → Matcher ρ
  | [], trees, position, s => (.matched position trees, s)
  | p :: ps, trees, position, s =>
    match run p position s with
    | (.matched position new, s) => matchSeq run ps (trees ++ new) position s
    | other => other

/-- Match the first alternative that can be. -/
def matchAlt (run : Peg ρ → Matcher ρ) : List (Peg ρ) → Matcher ρ
  | [], _, s => (.failed, s)
  | p :: ps, position, s =>
    match run p position s with
    | (.failed, s) => matchAlt run ps position s
    | (.abandoned, s) => (.failed, s)
    | other => other

/-- Match as often as possible; a match that takes nothing ends the repetition. `trees` are those
left so far, last first. -/
def matchMany (step : Matcher ρ) : (count : Nat) → (trees : List Tree) → Matcher ρ
  | 0, trees, position, s => (.matched position trees.reverse, s)
  | count + 1, trees, position, s =>
    match step position s with
    | (.matched next new, s) =>
      if position < next then matchMany step count (new.reverse ++ trees) next s
      else (.matched position trees.reverse, s)
    | (.failed, s) => (.matched position trees.reverse, s)
    | (.abandoned, s) => (.matched position trees.reverse, s)
    | other => other

/-- The last token before a position that is part of a construct. -/
def lastSolid (tokens : Array Token) : (position : Nat) → Option Token
  | 0 => none
  | position + 1 =>
    match tokens[position]? with
    | some k => if k.isLayout then lastSolid tokens position else some k
    | none => lastSolid tokens position

/-- The stretch of text between two positions. -/
def spanBetween (tokens : Array Token) (first behind : Nat) : Span :=
  match tokens[first]?, lastSolid tokens behind with
  | some a, some b => ⟨a.span.line, a.span.column, b.span.endLine, b.span.endColumn⟩
  | some a, none => a.span
  | none, _ => ⟨0, 0, 0, 0⟩

/-- Put a label on the trees between two positions. -/
def label (e : Setting ρ) (kind : Kind) (first behind : Nat) (trees : List Tree) : Tree :=
  .node kind (spanBetween e.stream.tokens first behind) trees

/-- Match the first step that can be, and wrap the trees so far with it. -/
def matchStep (e : Setting ρ) (run : Peg ρ → Matcher ρ) (first : Nat) (trees : List Tree) :
    List (Kind × Peg ρ) → Matcher ρ
  | [], _, s => (.failed, s)
  | (kind, p) :: steps, position, s =>
    match run p position s with
    | (.matched next new, s) => (.matched next [label e kind first next (trees ++ new)], s)
    | (.failed, s) => matchStep e run first trees steps position s
    | other => other

/-- Match steps as long as one can be matched. -/
def matchSteps (e : Setting ρ) (run : Peg ρ → Matcher ρ) (steps : List (Kind × Peg ρ))
    (first : Nat) : (count : Nat) → (trees : List Tree) → Matcher ρ
  | 0, trees, position, s => (.matched position trees, s)
  | count + 1, trees, position, s =>
    match matchStep e run first trees steps position s with
    | (.matched next new, s) => matchSteps e run steps first count new next s
    | (.failed, s) => (.matched position trees, s)
    | (.abandoned, s) => (.matched position trees, s)
    | other => other

/-- Recall the result of a rule at a position. -/
def recallAt? [DecidableEq ρ] (s : Progress ρ) (r : ρ) (position : Nat) :
    Option (Option (Nat × List Tree)) :=
  ((s.memory.getD position []).find? fun m => m.1 = r).map Prod.snd

/-- Remember the result of a rule at a position. -/
def remember (s : Progress ρ) (r : ρ) (position : Nat) (result : Option (Nat × List Tree)) :
    Progress ρ :=
  { s with memory := s.memory.modify position ((r, result) :: ·) }

/-- Match the body of a rule, unless its result is remembered. -/
def matchRule [DecidableEq ρ] (e : Setting ρ) (run : Peg ρ → Matcher ρ) (r : ρ) : Matcher ρ :=
  fun position s =>
    if e.grammar.remembered r then
      match recallAt? s r position with
      | some (some (next, trees)) => (.matched next trees, s)
      | some none => (.failed, s)
      | none =>
        match run (e.grammar.body r) position s with
        | (.matched next trees, s) =>
          (.matched next trees, remember s r position (some (next, trees)))
        | (.failed, s) | (.abandoned, s) => (.failed, remember s r position none)
        | other => other
    else
      match run (e.grammar.body r) position s with
      | (.abandoned, s) => (.failed, s)
      | other => other

/-- Match a parsing expression. `hints` says whether hints are tried. -/
def derive [DecidableEq ρ] (e : Setting ρ) :
    (fuel : Nat) → (hints : Bool) → Peg ρ → Matcher ρ
  | 0, _, _, _, s => (.failed, s)
  | fuel + 1, hints, p, position, s =>
    match p with
    | .terminal t => matchTerminal e t false position s
    | .keep t => matchTerminal e t true position s
    | .rule r => matchRule e (derive e fuel hints) r position s
    | .seq ps => matchSeq (derive e fuel hints) ps [] position s
    | .alt ps => matchAlt (derive e fuel hints) ps position s
    | .commit head body otherwise =>
      match derive e fuel hints head position s with
      | (.matched next trees, s) => matchSeq (derive e fuel hints) [body] trees next s
      | (.failed, s) => derive e fuel hints otherwise position s
      | other => other
    | .optional p =>
      match derive e fuel hints p position s with
      | (.failed, s) | (.abandoned, s) => (.matched position [], s)
      | other => other
    | .many p => matchMany (derive e fuel hints p) (e.stream.tokens.size + 1) [] position s
    | .many1 p =>
      match derive e fuel hints p position s with
      | (.matched next trees, s) =>
        matchMany (derive e fuel hints p) (e.stream.tokens.size + 1) trees.reverse next s
      | other => other
    | .sepBy p sep =>
      match derive e fuel hints p position s with
      | (.matched next trees, s) =>
        matchMany (matchSeq (derive e fuel hints) [sep, p] []) (e.stream.tokens.size + 1)
          trees.reverse next s
      | other => other
    | .ahead p =>
      match derive e fuel hints p position s with
      | (.matched _ _, s) => (.matched position [], s)
      | other => other
    | .notAhead p =>
      match derive e fuel hints p position s with
      | (.matched _ _, s) => (.failed, s)
      | (.failed, s) | (.abandoned, s) => (.matched position [], s)
      | other => other
    | .forced text => matchForced e text position s
    | .node kind p =>
      match derive e fuel hints p position s with
      | (.matched next trees, s) => (.matched next [label e kind position next trees], s)
      | other => other
    | .chain head steps =>
      match derive e fuel hints head position s with
      | (.matched next trees, s) =>
        matchSteps e (derive e fuel hints) steps position (e.stream.tokens.size + 1) trees next s
      | other => other
    | .refuse p c =>
      match derive e fuel hints p position s with
      | (.matched next trees, s) =>
        match c.fault? (e.scene s next) trees with
        | some fault => (.refused fault, s)
        | none => (.abandoned, s)
      | other => other
    | .checked p c =>
      match derive e fuel hints p position s with
      | (.matched next trees, s) =>
        match c.fault? (e.scene s next) trees with
        | some fault => (.refused fault, s)
        | none => (.matched next trees, s)
      | other => other
    | .hint p => if hints then derive e fuel hints p position s else (.failed, s)
    | .plain p => derive e fuel false p position s

/-- A bound on the depth of derivations over so many tokens. -/
def deriveDepth (tokens : Nat) : Nat := 1000 * (tokens + 2)

/-- Derive a whole text from the start rule. -/
def Setting.run [DecidableEq ρ] (e : Setting ρ) (hints : Bool) (reached : Nat) :
    Outcome × Progress ρ :=
  derive e (deriveDepth e.stream.tokens.size) hints (.rule e.grammar.start) 0
    ⟨reached, Array.replicate (e.stream.tokens.size + 1) []⟩

end

/-- What reading the rest of the tokens makes of a fault of the grammar: a fault of the reader
goes first, and so does a bracket that was opened on an earlier line and never closed. -/
def recheck (e : Setting ρ) (reached : Nat) (fault : Fault) : Fault :=
  match e.stream.stop with
  | none => fault
  | some stop =>
    if stop.urgent then stop.fault
    else match stop.brackets, e.stream.tokens[reached - 1]? with
      | b :: _, some k =>
        if b.line < k.span.line then b.neverClosedEarlier e.text else fault
      | _, _ => fault

/-- The fault of a text that no rule matches and no hint explains: `last` is the last token read
without hints. -/
def unexplained (e : Setting ρ) (s : Progress ρ) (last : Option Token) : Fault :=
  let scene := e.scene s 0
  match last with
  | none => ⟨1, 1, "invalid syntax"⟩
  | some k =>
    if k.kind = .indent then scene.faultHere "unexpected indent"
    else if k.kind = .dedent then scene.faultHere "unexpected unindent"
    else recheck e s.reached (scene.faultAtToken k "invalid syntax")

/-- The trees of a text, or what is wrong with it. A text that does not match is derived a second
time, with hints, to find the words for the fault. -/
def Setting.parse [DecidableEq ρ] (e : Setting ρ) : Except Fault (List Tree) :=
  match e.run false 0 with
  | (.matched _ trees, _) => .ok trees
  | (.unreadable fault, _) => .error fault
  | (.refused fault, s) => .error (recheck e s.reached fault)
  | (_, s) =>
    let last := e.stream.tokens[s.reached - 1]?
    match e.run true s.reached with
    | (.unreadable fault, _) => .error fault
    | (.refused fault, s) => .error (recheck e s.reached fault)
    | (_, s) => .error (unexplained e s last)

namespace Field

/-- The expression as a text: in brackets, on the line it stands on. -/
def source (f : Field) : SourceText :=
  .ofSource (List.replicate (f.line - 1) '\n' ++ '(' :: f.text ++ [')'])

/-- Count the columns of a token on the first line of the field from where the field stands. -/
def shift (f : Field) (k : Token) : Token :=
  if k.span.endLine = f.line then
    { k with
      span.column := k.span.column + f.offset
      span.endColumn := k.span.endColumn + f.offset }
  else k

/-- The tokens of the expression. -/
def tokens (f : Field) : TokenStream :=
  let stream := f.source.tokens
  { stream with tokens := stream.tokens.map f.shift }

end Field

/-- What is wrong with the expression of a field. A field inside it is looked at as long as
`nesting` allows. -/
def Grammar.fieldFault? [DecidableEq ρ] (g : Grammar ρ) : (nesting : Nat) → Field → Option Fault
  | 0, _ => none
  | nesting + 1, f =>
    let e : Setting ρ :=
      ⟨{ g with start := g.field }, f.source, f.tokens, some f.offset, g.fieldFault? nesting⟩
    match e.parse with
    | .ok _ => none
    | .error fault => some fault

/-- The check of the fields in a text. Fields inside each other are shorter and shorter, so that the
length of the text bounds their nesting. -/
def Grammar.fieldCheck [DecidableEq ρ] (g : Grammar ρ) (text : SourceText) : Field → Option Fault :=
  g.fieldFault? (text.chars.length + 1)

/-- The trees of a whole text, or what is wrong with it. -/
def Grammar.parse [DecidableEq ρ] (g : Grammar ρ) (text : SourceText) : Except Fault (List Tree) :=
  Setting.parse ⟨g, text, text.tokens, none, g.fieldCheck text⟩

end NodeLint.Source
