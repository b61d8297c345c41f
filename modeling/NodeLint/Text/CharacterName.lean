import NodeLint.Text.CodePoints
import NodeLint.Text.NameTable

/-!
# Character names

Which texts name a character. Most names and all aliases stand in a table, which is read without
regard to case. The names of Hangul syllables are spelled from the names of their parts. The names
of ideographs and of two more scripts end in the code point.
-/

namespace NodeLint.Text

/-! ## Names in the table -/

/-- A word of the table: the word itself, or the first of a run of words that end in a number, with
the number of the last. -/
structure NameWord where
  first : List Char
  last : List Char

namespace NameWord

/-- Read `A001` or `A001~017`. -/
def read (cs : List Char) : NameWord :=
  let (first, last) := (splitFirst? '~' cs).getD (cs, [])
  ⟨first, last⟩

/-- Whether a word is this one, or one of the run. -/
def accepts (w : NameWord) (cs : List Char) : Bool :=
  let front := w.first.length - w.last.length
  if w.last = [] then cs = w.first
  else
    cs.length = w.first.length && cs.take front = w.first.take front &&
      (cs.drop front).all Char.isDigit &&
      hexValue (w.first.drop front) ≤ hexValue (cs.drop front) &&
      hexValue (cs.drop front) ≤ hexValue w.last

end NameWord

/-- The names that go on from a point: whether a name may end here, and what goes on behind which
words. -/
inductive NameTree where
  | node (complete : Bool) (branches : List (List NameWord × NameTree))

namespace NameTree

/-- Whether these words spell a name to its end. -/
def contains : NameTree → List (List Char) → Bool
  | .node complete _, [] => complete
  | .node _ branches, word :: words =>
    branches.any fun b => b.1.any (·.accepts word) && contains b.2 words

/-- What a table has given so far: the word being read, last character first, the words joined to
it, the part being read, and the parts around it with the words that lead from each to the next. -/
structure Partial where
  word : List Char
  joined : List NameWord
  complete : Bool
  branches : List (List NameWord × NameTree)
  outer : List (List NameWord × Bool × List (List NameWord × NameTree))

namespace Partial

/-- The words that the word being read is joined to, and that word. -/
def heads (p : Partial) : List NameWord := p.joined ++ [NameWord.read p.word.reverse]

/-- End a word that nothing follows. -/
def endWord (p : Partial) : Partial :=
  if p.word = [] then p
  else { p with word := [], joined := [], branches := (p.heads, .node true []) :: p.branches }

/-- End a part and go on with the one around it. -/
def endPart (p : Partial) : Partial :=
  match p.outer with
  | [] => p
  | (heads, complete, branches) :: outer =>
    ⟨[], [], complete, (heads, .node p.complete p.branches) :: branches, outer⟩

/-- Read one character of a table. -/
def next (p : Partial) (c : Char) : Partial :=
  if c = ' ' || c = '\n' then p.endWord
  else if c = '+' then { p with word := [], joined := p.heads }
  else if c = '(' then ⟨[], [], false, [], (p.heads, p.complete, p.branches) :: p.outer⟩
  else if c = ')' then p.endWord.endPart
  else if c = '.' then { p with complete := true }
  else { p with word := c :: p.word }

end Partial

/-- Read a table. -/
def read (table : String) : NameTree :=
  let p := (table.toList.foldl Partial.next ⟨[], [], false, [], []⟩).endWord
  .node p.complete p.branches

end NameTree

/-- The names of the table. -/
def tableNames : NameTree := NameTree.read nameTable

/-! ## Names that are made up -/

/-- The names of the parts of a Hangul syllable: the first consonant, the vowel, the last
consonant. -/
def hangulParts : List (List String) :=
  [["", "G", "GG", "N", "D", "DD", "R", "M", "B", "BB", "S", "SS", "J", "JJ", "C", "K", "T", "P",
    "H"],
   ["A", "AE", "YA", "YAE", "EO", "E", "YEO", "YE", "O", "WA", "WAE", "OE", "YO", "U", "WEO", "WE",
    "WI", "YU", "EU", "YI", "I"],
   ["", "G", "GG", "GS", "N", "NJ", "NH", "D", "L", "LG", "LM", "LB", "LS", "LT", "LP", "LH", "M",
    "B", "BS", "S", "SS", "NG", "J", "C", "K", "T", "P", "H"]]

/-- Whether a text is spelled by one of the given parts each, of which the longest that fits is
taken. -/
def isSpelledBy : List (List String) → List Char → Bool
  | [], cs => cs = []
  | parts :: rest, cs =>
    match (((parts.map String.toList).filter (·.isPrefixOf cs)).map List.length).max? with
    | some longest => isSpelledBy rest (cs.drop longest)
    | none => false

/-- The ideographs named by their code point. -/
def unifiedIdeographs : CodeSet := CodeSet.read
  "3400-4DBF 4E00-9FFF 20000-2A6DF 2A700-2B738 2B740-2B81D 2B820-2CEA1 2CEB0-2EBE0 30000-3134A"

/-- Further characters named by their code point, with what the name says before it. -/
def codedNames : List (String × CodeSet) :=
  [("CJK COMPATIBILITY IDEOGRAPH-", CodeSet.read "F900-FA6D FA70-FAD9 2F800-2FA1D"),
   ("KHITAN SMALL SCRIPT CHARACTER-", CodeSet.read "18B00-18CD5"),
   ("NUSHU CHARACTER-", CodeSet.read "1B170-1B2FB")]

/-- Whether a numeral of four or five digits, in capitals, is a code point of the class. -/
def isCodeIn (s : CodeSet) (cs : List Char) : Bool :=
  (cs.length = 4 || cs.length = 5) &&
    cs.all (fun c => c.isDigit || ('A' ≤ c && c ≤ 'F')) && s.any (·.contains (hexValue cs))

/-- Whether a text names a character. The case of letters counts only where a syllable or a code
point is spelled out. -/
def isCharacterName (name : List Char) : Bool :=
  match "HANGUL SYLLABLE ".toList.isPrefixOf? name with
  | some syllable => isSpelledBy hangulParts syllable
  | none =>
    match "CJK UNIFIED IDEOGRAPH-".toList.isPrefixOf? name with
    | some code => isCodeIn unifiedIdeographs code
    | none =>
      let name := name.map Char.toUpper
      tableNames.contains (pieces ' ' name) ||
        codedNames.any fun (front, codes) =>
          (front.toList.isPrefixOf? name).any fun code =>
            code.head? ≠ some '0' && isCodeIn codes code

end NodeLint.Text
