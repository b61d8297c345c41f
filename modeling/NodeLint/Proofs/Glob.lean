import Mathlib.Data.List.Infix
import NodeLint.Glob
import NodeLint.Proofs.Lines

/-!
# What patterns accept

Some kinds of patterns are told in other words. A star in front of an ending accepts the texts that
end so, and a row of question marks accepts the texts of that length, which tells any two texts of
different lengths apart. A pattern for tails accepts a path if it accepts a path with fewer names in
front, and a single name is below no directory.
-/

namespace NodeLint.Glob

/-- A run of any characters leaves some tail of a text. -/
theorem someTail_iff (rest : List Char → Bool) (cs : List Char) :
    someTail rest cs = true ↔ ∃ tail, tail <:+ cs ∧ rest tail = true := by
  induction cs with
  | nil => simp [someTail]
  | cons c cs ih =>
    rw [someTail, Bool.or_eq_true, ih]
    constructor
    · rintro (h | ⟨tail, htail, h⟩)
      · exact ⟨c :: cs, List.suffix_rfl, h⟩
      · exact ⟨tail, htail.trans (List.suffix_cons c cs), h⟩
    · rintro ⟨tail, htail, h⟩
      rcases List.suffix_cons_iff.mp htail with rfl | htail
      · exact Or.inl h
      · exact Or.inr ⟨tail, htail, h⟩

/-- Pieces that are characters match these characters. -/
theorem matchPieces_chars (cs text : List Char) :
    matchPieces (cs.map .char) text = true ↔ text = cs := by
  induction cs generalizing text with
  | nil => simp [matchPieces]
  | cons c cs ih =>
    cases text with
    | nil => simp [matchPieces]
    | cons d text => simp [matchPieces, ih, eq_comm (a := c)]

/-- A star in front of an ending accepts the texts with that ending. -/
theorem accepts_sourceName (name : String) :
    accepts "*.py" name = true ↔ ".py".toList <:+ name.toList := by
  have hpieces : accepts "*.py" name =
      someTail (matchPieces (".py".toList.map .char)) name.toList :=
    rfl
  rw [hpieces, someTail_iff]
  simp only [matchPieces_chars, exists_eq_right]

/-- A text occurs in another exactly if it stands somewhere in it. -/
theorem occurs_iff {mark : List Char} (hmark : mark ≠ []) (cs : List Char) :
    occurs mark cs = true ↔ mark <:+: cs := by
  unfold occurs
  induction cs with
  | nil => simp [splitAt?, hmark]
  | cons c cs ih =>
    rw [splitAt?, List.infix_cons_iff, ← ih, ← List.isPrefixOf_iff_prefix]
    split <;> simp_all

/-! ## Question marks -/

/-- A row of question marks. -/
def ones (n : Nat) : String := String.ofList (List.replicate n '?')

/-- Each question mark is a piece of its own. -/
theorem pieces_ones (n : Nat) : pieces (List.replicate n '?') = List.replicate n .one := by
  unfold pieces
  rw [List.length_replicate]
  induction n with
  | zero => rfl
  | succ n ih => rw [List.replicate_succ, List.replicate_succ, piecesFrom, ih]; rfl

/-- Each of these pieces takes one character. -/
theorem matchPieces_ones (n : Nat) (cs : List Char) :
    matchPieces (List.replicate n .one) cs = true ↔ cs.length = n := by
  induction n generalizing cs with
  | zero => cases cs <;> simp [matchPieces]
  | succ n ih => cases cs <;> simp [List.replicate_succ, matchPieces, ih]

/-- A row of question marks accepts the texts of its length. -/
theorem accepts_ones (n : Nat) (path : String) :
    accepts (ones n) path = true ↔ path.toList.length = n := by
  have hplain : occurs "**".toList (List.replicate n '?') = false := by
    rw [Bool.eq_false_iff, ne_eq, occurs_iff (by decide)]
    intro hinfix
    have hstar : '*' ∈ List.replicate n '?' := hinfix.subset (by decide)
    exact absurd (List.eq_of_mem_replicate hstar) (by decide)
  have hpath : accepts (ones n) path = wildcard (List.replicate n '?') path.toList := by
    simp only [accepts, ones, String.toList_ofList, matchPath, hplain]
    rfl
  rw [hpath, wildcard, pieces_ones, matchPieces_ones]

/-! ## Tails of a path -/

/-- The text of names with slashes between them. -/
theorem toList_join (names : List String) :
    (Text.join "/" names).toList = List.intercalate ['/'] (names.map String.toList) := by
  induction names with
  | nil => rfl
  | cons name names ih =>
    cases names with
    | nil => simp [Text.join, List.intercalate]
    | cons next names =>
      have hjoin : Text.join "/" (name :: next :: names) =
          name ++ "/" ++ Text.join "/" (next :: names) := rfl
      rw [hjoin, String.toList_append, String.toList_append, ih]
      simp [List.intercalate]

/-- The tails of a list of names are what its ends are joined to. -/
theorem mem_tails (ps : List (List Char)) (tail : List Char) :
    tail ∈ tails ps ↔ ∃ qs, qs ≠ [] ∧ qs <:+ ps ∧ tail = List.intercalate ['/'] qs := by
  induction ps with
  | nil =>
    simp only [tails, List.not_mem_nil, List.suffix_nil, false_iff]
    rintro ⟨qs, hqs, rfl, -⟩
    exact hqs rfl
  | cons p ps ih =>
    rw [tails, List.mem_cons, ih]
    constructor
    · rintro (rfl | ⟨qs, hqs, hsuffix, rfl⟩)
      · exact ⟨p :: ps, List.cons_ne_nil p ps, List.suffix_rfl, rfl⟩
      · exact ⟨qs, hqs, hsuffix.trans (List.suffix_cons p ps), rfl⟩
    · rintro ⟨qs, hqs, hsuffix, rfl⟩
      rcases List.suffix_cons_iff.mp hsuffix with rfl | hsuffix
      · exact Or.inl rfl
      · exact Or.inr ⟨qs, hqs, hsuffix, rfl⟩

/-- A tail of a path is matched if one of its ends is. -/
theorem matchesTail_join {names : List String} (hnames : names ≠ [])
    (hslash : ∀ name ∈ names, '/' ∉ name.toList) (pattern : List Char) :
    matchesTail pattern (Text.join "/" names).toList = true ↔
      ∃ rest, rest ≠ [] ∧ rest <:+ names ∧ wildcard pattern (Text.join "/" rest).toList = true := by
  rw [matchesTail, Text.pieces_join hnames hslash, List.any_eq_true]
  constructor
  · rintro ⟨tail, htail, hmatch⟩
    obtain ⟨qs, hqs, hsuffix, rfl⟩ := (mem_tails _ _).mp htail
    obtain ⟨rest, hrest, rfl⟩ := List.suffix_map_iff.mp hsuffix
    refine ⟨rest, fun hnil => hqs (by rw [hnil, List.map_nil]), hrest, ?_⟩
    rwa [toList_join]
  · rintro ⟨rest, hne, hrest, hmatch⟩
    refine ⟨(Text.join "/" rest).toList, (mem_tails _ _).mpr ?_, hmatch⟩
    exact ⟨rest.map String.toList, fun hnil => hne (List.map_eq_nil_iff.mp hnil),
      hrest.map String.toList, toList_join rest⟩

/-- A single name has no tail but itself. -/
theorem matchesTail_name {name : List Char} (hname : '/' ∉ name) (pattern : List Char) :
    matchesTail pattern name = wildcard pattern name := by
  rw [matchesTail, Text.pieces_of_not_mem hname]
  simp [tails, List.intercalate]

/-- What is below a front stands behind the front and a slash. -/
theorem below?_eq_some_iff (front path rest : List Char) :
    below? front path = some rest ↔ path = front ++ '/' :: rest := by
  rw [below?]
  constructor
  · intro h
    split at h
    · rename_i hfront
      obtain ⟨behind, rfl⟩ := List.isPrefixOf_iff_prefix.mp hfront
      obtain rfl : behind = rest := by simpa using h
      rw [List.append_assoc, List.singleton_append]
    · cases h
  · rintro rfl
    simp

/-- Nothing without a slash is below a directory. -/
theorem below?_eq_none {path : List Char} (hpath : '/' ∉ path) (front : List Char) :
    below? front path = none := by
  rw [Option.eq_none_iff_forall_ne_some]
  intro rest h
  rw [below?_eq_some_iff] at h
  exact hpath (h ▸ List.mem_append_right front List.mem_cons_self)

end NodeLint.Glob
