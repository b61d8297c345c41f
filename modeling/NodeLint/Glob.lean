import NodeLint.Text.Lines

/-!
# Glob patterns

A wildcard pattern is matched against a whole text: `*` stands for any run of characters, `?` for
one, and a bracket for one character of a set. A slash is a character like any other. There are no
escapes.

A path pattern with `**` in it is read by its shape. `**/name/**` wants a directory of the path,
`**/tail` a tail of the path, `front/**/tail` a tail of what is below `front`, and `front/**`
anything below `front`; in the last two `front` is taken literally.
-/

namespace NodeLint.Glob

/-! ## Character sets -/

/-- A character set: the characters between two bounds of one of the ranges, or all others. -/
structure CharSet where
  negated : Bool
  ranges : List (Char × Char)
deriving Repr, DecidableEq

/-- Whether a character is in a set. -/
def CharSet.contains (s : CharSet) (c : Char) : Bool :=
  (s.ranges.any fun (a, b) => a ≤ c && c ≤ b) != s.negated

/-- A symbol inside brackets: a character, or the dash that joins two characters to a range. -/
inductive SetSymbol where
  | char (c : Char)
  | to
deriving Repr, DecidableEq

/-- The character that a symbol stands for when it joins nothing. -/
def SetSymbol.literal : SetSymbol → Char
  | .char c => c
  | .to => '-'

/-- Cut the inside of brackets at the dashes that can join two characters: not the first
character, and not within two characters behind another such dash. `skip` counts the characters in
which no dash joins. -/
def chunksFrom : (skip : Nat) → List Char → List (List Char)
  | _, [] => [[]]
  | 0, '-' :: cs => [] :: chunksFrom 2 cs
  | skip, c :: cs =>
    match chunksFrom (skip - 1) cs with
    | [] => [[c]]
    | p :: ps => (c :: p) :: ps

/-- A dash behind which nothing stands joins nothing. -/
def mendLast : List (List Char) → List (List Char)
  | [] => []
  | [p] => [p]
  | [p, []] => [p ++ ['-']]
  | p :: ps => p :: mendLast ps

/-- Drop a range that runs backwards, together with its bounds. -/
def joinChunks (front : List Char) : List (List Char) → List (List Char)
  | [] => [front]
  | next :: rest =>
    match front.getLast?, next with
    | some a, b :: behind => if b < a then (front.dropLast ++ behind) :: rest else front :: next :: rest
    | _, _ => front :: next :: rest

/-- Drop all ranges that run backwards, from the right. -/
def dropBackward : List (List Char) → List (List Char)
  | [] => []
  | p :: ps => joinChunks p (dropBackward ps)

/-- The symbols of chunks with dashes between. -/
def symbols : List (List Char) → List SetSymbol
  | [] => []
  | [p] => p.map .char
  | p :: ps => p.map .char ++ .to :: symbols ps

/-- The ranges that symbols denote; a single character is a range of its own. -/
def rangesOf : List SetSymbol → List (Char × Char)
  | [] => []
  | x :: .to :: y :: rest => (x.literal, y.literal) :: rangesOf rest
  | x :: rest => (x.literal, x.literal) :: rangesOf rest

/-- The set that the inside of brackets denotes. -/
def CharSet.ofBrackets (inside : List Char) : CharSet :=
  let skip := if inside.head? = some '!' then 2 else 1
  match symbols (dropBackward (mendLast (chunksFrom skip inside))) with
  | .char '!' :: rest => ⟨true, rangesOf rest⟩
  | ss => ⟨false, rangesOf ss⟩

/-! ## Wildcards -/

/-- A piece of a wildcard pattern. -/
inductive Piece where
  | run
  | one
  | char (c : Char)
  | set (s : CharSet)
deriving Repr, DecidableEq

/-- The inside of brackets and what follows them. A closing bracket right at the start, or right
behind an exclamation mark, is part of the set. -/
def brackets? (cs : List Char) : Option (List Char × List Char) :=
  let front := match cs with
    | '!' :: ']' :: _ => 2
    | '!' :: _ => 1
    | ']' :: _ => 1
    | _ => 0
  let rest := cs.drop front
  match rest.dropWhile (· ≠ ']') with
  | _ :: after => some (cs.take front ++ rest.takeWhile (· ≠ ']'), after)
  | [] => none

/-- The pieces of a pattern; each step takes at least one character. -/
def piecesFrom : (fuel : Nat) → List Char → List Piece
  | 0, _ => []
  | _ + 1, [] => []
  | fuel + 1, c :: cs =>
    if c = '*' then .run :: piecesFrom fuel cs
    else if c = '?' then .one :: piecesFrom fuel cs
    else if c = '[' then
      match brackets? cs with
      | some (inside, after) => .set (CharSet.ofBrackets inside) :: piecesFrom fuel after
      | none => .char '[' :: piecesFrom fuel cs
    else .char c :: piecesFrom fuel cs

/-- The pieces of a pattern. -/
def pieces (pattern : List Char) : List Piece := piecesFrom pattern.length pattern

/-- Whether the rest of a text can be split so that `rest` matches its second part. -/
def someTail (rest : List Char → Bool) : List Char → Bool
  | [] => rest []
  | c :: cs => rest (c :: cs) || someTail rest cs

/-- Whether pieces match a whole text. -/
def matchPieces : List Piece → List Char → Bool
  | [], cs => cs.isEmpty
  | .run :: ps, cs => someTail (matchPieces ps) cs
  | .one :: ps, cs =>
    match cs with
    | [] => false
    | _ :: cs => matchPieces ps cs
  | .char c :: ps, cs =>
    match cs with
    | [] => false
    | d :: cs => c = d && matchPieces ps cs
  | .set s :: ps, cs =>
    match cs with
    | [] => false
    | d :: cs => s.contains d && matchPieces ps cs

/-- Whether a wildcard pattern matches a whole text. -/
def wildcard (pattern text : List Char) : Bool := matchPieces (pieces pattern) text

/-! ## Path patterns -/

/-- The nonempty tails of a list of names, joined with slashes. -/
def tails : List (List Char) → List (List Char)
  | [] => []
  | p :: ps => (List.intercalate ['/'] (p :: ps)) :: tails ps

/-- Whether a tail of a path matches a wildcard pattern. -/
def matchesTail (pattern path : List Char) : Bool :=
  (tails (Text.pieces '/' path)).any (wildcard pattern)

/-- The two sides of the first occurrence of a text. -/
def splitAt? (mark : List Char) : List Char → Option (List Char × List Char)
  | [] => none
  | c :: cs =>
    if mark.isPrefixOf (c :: cs) then some ([], (c :: cs).drop mark.length)
    else (splitAt? mark cs).map fun (a, b) => (c :: a, b)

/-- Whether a text occurs in another. -/
def occurs (mark cs : List Char) : Bool := (splitAt? mark cs).isSome

/-- What is left of a path below a directory that is taken literally. -/
def below? (front path : List Char) : Option (List Char) :=
  if (front ++ ['/']).isPrefixOf path then some (path.drop (front.length + 1)) else none

/-- Whether a path pattern matches a path. -/
def matchPath (pattern path : List Char) : Bool :=
  let starry := "**/".toList.isPrefixOf pattern
  let starred := "/**".toList.isSuffixOf pattern
  if !occurs "**".toList pattern then wildcard pattern path
  else if starry && starred then
    let middle := (pattern.drop 3).take (pattern.length - 6)
    (Text.pieces '/' path).dropLast.any (wildcard middle)
  else if starry then matchesTail (pattern.drop 3) path
  else match splitAt? "/**/".toList pattern with
    | some (front, tail) => (below? front path).any (matchesTail tail)
    | none =>
      if starred then
        let front := pattern.take (pattern.length - 3)
        path = front || (below? front path).isSome
      else wildcard pattern path

/-- Whether a path pattern matches a path. -/
def accepts (pattern path : String) : Bool := matchPath pattern.toList path.toList

end NodeLint.Glob
