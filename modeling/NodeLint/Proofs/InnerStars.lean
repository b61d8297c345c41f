import NodeLint.Proofs.DirectoryPattern

/-!
# Patterns with stars inside

Two stars may also stand behind other names. In `FRONT/**/TAIL` they stand for any number of
directories, none included, since a tail of what is below the front is wanted. In `**/FRONT/**/TAIL`
a tail of the path is matched by a wildcard pattern, in which the stars are a run of characters
between two slashes, and so they stand for one directory at least.
-/

namespace NodeLint.Glob

/-! ## Wildcards in two parts -/

/-- Pieces in two parts match a text in two parts. -/
theorem matchPieces_append (ps qs : List Piece) (text : List Char) :
    matchPieces (ps ++ qs) text = true ↔
      ∃ left right, text = left ++ right ∧ matchPieces ps left = true ∧
        matchPieces qs right = true := by
  induction ps generalizing text with
  | nil =>
    constructor
    · intro h
      exact ⟨[], text, rfl, rfl, h⟩
    · rintro ⟨left, right, rfl, hleft, hright⟩
      rwa [List.isEmpty_iff.mp hleft]
  | cons p ps ih =>
    rw [List.cons_append]
    -- A run takes any part of the text, every other piece takes one character.
    by_cases hp : p = .run
    · subst hp
      simp only [matchPieces, someTail_iff]
      constructor
      · rintro ⟨tail, ⟨skipped, rfl⟩, h⟩
        obtain ⟨left, right, rfl, hleft, hright⟩ := (ih tail).mp h
        exact ⟨skipped ++ left, right, (List.append_assoc _ _ _).symm,
          ⟨left, List.suffix_append _ _, hleft⟩, hright⟩
      · rintro ⟨-, right, rfl, ⟨tail, ⟨skipped, rfl⟩, hleft⟩, hright⟩
        exact ⟨tail ++ right, ⟨skipped, (List.append_assoc _ _ _).symm⟩,
          (ih _).mpr ⟨tail, right, rfl, hleft, hright⟩⟩
    · constructor
      · intro h
        obtain ⟨c, cs, rfl, hcs, hagain⟩ := exists_cons_of_matchPieces hp h
        obtain ⟨left, right, rfl, hleft, hright⟩ := (ih cs).mp hcs
        exact ⟨c :: left, right, rfl, hagain ps left hleft, hright⟩
      · rintro ⟨left, right, rfl, hleft, hright⟩
        obtain ⟨c, cs, rfl, hcs, hagain⟩ := exists_cons_of_matchPieces hp hleft
        exact hagain _ _ ((ih _).mpr ⟨cs, right, rfl, hcs, hright⟩)

/-- A run in front of a slash, or at the end, of a pattern matches whatever stands there. -/
theorem matchPieces_slash_run (ps : List Piece) (text : List Char) :
    matchPieces (.char '/' :: .run :: .run :: ps) text = true ↔
      ∃ between rest, text = '/' :: (between ++ rest) ∧ matchPieces ps rest = true := by
  cases text with
  | nil => simp [matchPieces]
  | cons c cs =>
    simp only [matchPieces, Bool.and_eq_true, decide_eq_true_eq, someTail_iff, List.cons.injEq]
    constructor
    · rintro ⟨rfl, tail, ⟨skipped, rfl⟩, rest, ⟨skipped', rfl⟩, h⟩
      exact ⟨skipped ++ skipped', rest, ⟨rfl, (List.append_assoc _ _ _).symm⟩, h⟩
    · rintro ⟨between, rest, ⟨rfl, rfl⟩, h⟩
      exact ⟨rfl, rest, List.suffix_append _ _, rest, List.suffix_rfl, h⟩

/-! ## Tails of a text -/

/-- The pieces of a text joined again are the text. -/
theorem intercalate_pieces (cs : List Char) :
    List.intercalate ['/'] (Text.pieces '/' cs) = cs := by
  induction cs with
  | nil => rfl
  | cons c cs ih =>
    by_cases hc : c = '/'
    · subst hc
      obtain ⟨p, ps, hcs⟩ := List.exists_cons_of_ne_nil (Text.pieces_ne_nil '/' cs)
      rw [hcs] at ih
      rw [Text.pieces_cons_sep, hcs, ← ih]
      simp [List.intercalate]
    · obtain ⟨p, ps, hcs, hpieces⟩ := Text.pieces_cons_of_ne hc cs
      rw [hcs] at ih
      rw [hpieces, ← ih]
      cases ps <;> simp [List.intercalate]

/-- The first tail of a path is the path. -/
theorem tails_pieces (path : List Char) :
    tails (Text.pieces '/' path) = path :: tails (Text.pieces '/' path).tail := by
  have hpath := intercalate_pieces path
  obtain ⟨p, ps, hpieces⟩ := List.exists_cons_of_ne_nil (Text.pieces_ne_nil '/' path)
  rw [hpieces] at hpath ⊢
  rw [tails, hpath, List.tail_cons]

/-- The other tails of a path stand behind its slashes. -/
theorem mem_tails_tail (tail path : List Char) :
    tail ∈ tails (Text.pieces '/' path).tail ↔ ∃ above, path = above ++ '/' :: tail := by
  induction path with
  | nil => simp [Text.pieces, tails]
  | cons c cs ih =>
    by_cases hc : c = '/'
    · subst hc
      rw [Text.pieces_cons_sep, List.tail_cons, tails_pieces, List.mem_cons, ih]
      constructor
      · rintro (rfl | ⟨above, rfl⟩)
        · exact ⟨[], rfl⟩
        · exact ⟨'/' :: above, rfl⟩
      · rintro ⟨above, h⟩
        rcases List.cons_eq_append_iff.mp h with ⟨-, htail⟩ | ⟨above', -, hcs⟩
        · exact Or.inl (List.cons.inj htail).2
        · exact Or.inr ⟨above', hcs⟩
    · obtain ⟨p, ps, hcs, hpieces⟩ := Text.pieces_cons_of_ne hc cs
      rw [hcs, List.tail_cons] at ih
      rw [hpieces, List.tail_cons, ih]
      constructor
      · rintro ⟨above, rfl⟩
        exact ⟨c :: above, rfl⟩
      · rintro ⟨above, h⟩
        rcases List.cons_eq_append_iff.mp h with ⟨-, htail⟩ | ⟨above', -, hcs⟩
        · exact absurd (List.cons.inj htail).1.symm hc
        · exact ⟨above', hcs⟩

/-- A tail of a path is the path itself or what stands behind one of its slashes. -/
theorem matchesTail_iff (pattern path : List Char) :
    matchesTail pattern path = true ↔
      ∃ above below, path = above ++ below ∧ (above = [] ∨ above.getLast? = some '/') ∧
        wildcard pattern below = true := by
  rw [matchesTail, List.any_eq_true, tails_pieces]
  simp only [List.mem_cons, mem_tails_tail]
  constructor
  · rintro ⟨tail, rfl | ⟨above, rfl⟩, h⟩
    · exact ⟨[], tail, rfl, Or.inl rfl, h⟩
    · exact ⟨above ++ ['/'], tail, by simp, Or.inr (by simp), h⟩
  · rintro ⟨above, below, rfl, rfl | hlast, h⟩
    · exact ⟨below, Or.inl rfl, h⟩
    · obtain ⟨above, rfl⟩ := List.getLast?_eq_some_iff.mp hlast
      exact ⟨below, Or.inr ⟨above, by simp⟩, h⟩

/-! ## Stars behind a front -/

/-- A pattern with stars in front of a tail that does not end in stars looks for the tail. -/
theorem matchPath_tail {tail : List Char} (htail : ¬ "/**".toList <:+ "**/".toList ++ tail)
    (path : List Char) : matchPath ("**/".toList ++ tail) path = matchesTail tail path := by
  have hoccurs : occurs "**".toList ("**/".toList ++ tail) = true := rfl
  have hstarry : "**/".toList.isPrefixOf ("**/".toList ++ tail) = true :=
    List.isPrefixOf_iff_prefix.mpr (List.prefix_append _ _)
  have hstarred : "/**".toList.isSuffixOf ("**/".toList ++ tail) = false := by
    rwa [Bool.eq_false_iff, ne_eq, List.isSuffixOf_iff_suffix]
  simp only [matchPath, hoccurs, hstarry, hstarred]
  rfl

/-- The stars of a pattern behind a front without slashes are the first. -/
theorem splitAt?_stars {front : List Char} (hfront : '/' ∉ front) (tail : List Char) :
    splitAt? "/**/".toList (front ++ ("/**/".toList ++ tail)) = some (front, tail) := by
  induction front with
  | nil => rfl
  | cons c front ih =>
    rw [List.mem_cons, not_or] at hfront
    have hfirst : "/**/".toList.isPrefixOf (c :: (front ++ ("/**/".toList ++ tail))) = false := by
      rw [Bool.eq_false_iff, ne_eq, List.isPrefixOf_iff_prefix]
      rintro ⟨rest, h⟩
      exact hfront.1 (List.cons.inj h).1
    rw [List.cons_append, splitAt?, hfirst, ih hfront.2]
    rfl

/-- A pattern with stars behind a front without slashes and stars looks for the tail below the
front. -/
theorem matchPath_inner {front : List Char} (hslash : '/' ∉ front) (hstar : '*' ∉ front)
    (tail path : List Char) :
    matchPath (front ++ ("/**/".toList ++ tail)) path =
      (below? front path).any (matchesTail tail) := by
  have hoccurs : occurs "**".toList (front ++ ("/**/".toList ++ tail)) = true :=
    (occurs_iff (by decide) _).mpr ⟨front ++ ['/'], '/' :: tail, by simp⟩
  have hstarry : "**/".toList.isPrefixOf (front ++ ("/**/".toList ++ tail)) = false := by
    cases front with
    | nil => rfl
    | cons c front =>
      rw [Bool.eq_false_iff, ne_eq, List.isPrefixOf_iff_prefix]
      rintro ⟨rest, h⟩
      exact hstar ((List.cons.inj h).1 ▸ List.mem_cons_self)
  simp only [matchPath, hoccurs, hstarry, splitAt?_stars hslash]
  rfl

/-! ## Names with stars between them -/

/-- A text is that of some names exactly if these are its pieces. -/
theorem toList_join_eq_text_iff {names : List String} (hnames : names ≠ [])
    (hslash : ∀ name ∈ names, '/' ∉ name.toList) (text : List Char) :
    (Text.join "/" names).toList = text ↔ names.map String.toList = Text.pieces '/' text := by
  constructor
  · intro h
    rw [← h, Text.pieces_join hnames hslash]
  · intro h
    rw [toList_join, h, intercalate_pieces]

variable {a b : String}

/-- To the wildcard, two stars between literal names are a run between two slashes. -/
theorem wildcard_inner_iff (ha : IsLiteral a) (hb : IsLiteral b) (text : List Char) :
    wildcard (a.toList ++ ("/**/".toList ++ b.toList)) text = true ↔
      ∃ between, text = a.toList ++ '/' :: (between ++ '/' :: b.toList) := by
  have hstars : pieces ("/**/".toList ++ b.toList) =
      .char '/' :: .run :: .run :: ('/' :: b.toList).map .char := by
    have hopen : pieces ("/**/".toList ++ b.toList) =
        .char '/' :: .run :: .run :: .char '/' :: pieces b.toList := rfl
    rw [hopen, isPlain_of_forall hb.ne, List.map_cons]
  rw [wildcard, pieces_append_of_forall ha.ne, hstars, matchPieces_append]
  simp only [matchPieces_chars, matchPieces_slash_run]
  constructor
  · rintro ⟨-, -, rfl, rfl, between, -, rfl, rfl⟩
    exact ⟨between, rfl⟩
  · rintro ⟨between, rfl⟩
    exact ⟨_, _, rfl, rfl, between, _, rfl, rfl⟩

/-- So they stand for one directory or more between the names. -/
theorem wildcard_inner_join (ha : IsLiteral a) (hb : IsLiteral b) {names : List String}
    (hnames : names ≠ []) (hslash : ∀ name ∈ names, '/' ∉ name.toList) :
    wildcard (a.toList ++ ("/**/".toList ++ b.toList)) (Text.join "/" names).toList = true ↔
      ∃ between, between ≠ [] ∧ names = a :: (between ++ [b]) := by
  have hpieces (between : List Char) :
      Text.pieces '/' (a.toList ++ '/' :: (between ++ '/' :: b.toList)) =
        a.toList :: (Text.pieces '/' between ++ [b.toList]) := by
    rw [Text.pieces_append_sep ha.slash_not_mem, Text.pieces_append,
      Text.pieces_of_not_mem hb.slash_not_mem]
  rw [wildcard_inner_iff ha hb]
  simp only [toList_join_eq_text_iff hnames hslash, hpieces]
  constructor
  · rintro ⟨text, h⟩
    obtain ⟨first, rest, rfl, hfirst, hrest⟩ := List.map_eq_cons_iff.mp h
    obtain ⟨between, last, rfl, hbetween, hlast⟩ := List.map_eq_append_iff.mp hrest
    obtain ⟨name, rfl, hname⟩ := List.map_eq_singleton_iff.mp hlast
    refine ⟨between, ?_, by rw [String.toList_inj.mp hfirst, String.toList_inj.mp hname]⟩
    rintro rfl
    exact Text.pieces_ne_nil '/' text hbetween.symm
  · rintro ⟨between, hne, rfl⟩
    refine ⟨(Text.join "/" between).toList, ?_⟩
    rw [Text.pieces_join hne fun name hname => hslash name (by simp [hname])]
    simp

/-- Behind a literal front two stars stand for any number of directories. -/
theorem accepts_inner_iff (ha : IsLiteral a) (hb : IsLiteral b) {names : List String}
    (hnames : names ≠ []) (hslash : ∀ name ∈ names, '/' ∉ name.toList) :
    accepts (a ++ "/**/" ++ b) (Text.join "/" names) = true ↔
      ∃ between, names = a :: (between ++ [b]) := by
  have hstar : '*' ∉ a.toList := fun h => (ha '*' h).1 rfl
  rw [accepts, String.toList_append, String.toList_append, List.append_assoc,
    matchPath_inner ha.slash_not_mem hstar]
  obtain ⟨first, rest, rfl⟩ := List.exists_cons_of_ne_nil hnames
  have hfirst : '/' ∉ first.toList := hslash first List.mem_cons_self
  by_cases hrest : rest = []
  · subst hrest
    rw [Text.join, below?_eq_none hfirst]
    simp
  · have hrestSlash : ∀ name ∈ rest, '/' ∉ name.toList := fun name hname =>
      hslash name (List.mem_cons_of_mem first hname)
    rw [toList_join_cons first hrest]
    by_cases heq : first = a
    · subst heq
      have hbelow : below? first.toList (first.toList ++ '/' :: (Text.join "/" rest).toList) =
          some (Text.join "/" rest).toList := (below?_eq_some_iff _ _ _).mpr rfl
      rw [hbelow, Option.any_some, matchesTail_join hrest hrestSlash]
      simp only [List.cons.injEq, true_and, (isPlain_of_forall hb.ne).wildcard_iff]
      constructor
      · rintro ⟨tail, hne, hsuffix, htail⟩
        have hsingle := (toList_join_eq_iff hne (fun name hname =>
          hrestSlash name (hsuffix.subset hname)) hb.slash_not_mem).mp htail.symm
        rw [hsingle] at hsuffix
        obtain ⟨between, h⟩ := hsuffix
        exact ⟨between, h.symm⟩
      · rintro ⟨between, rfl⟩
        exact ⟨[b], List.cons_ne_nil _ _, List.suffix_append between [b], rfl⟩
    · have hnone : below? a.toList (first.toList ++ '/' :: (Text.join "/" rest).toList) = none := by
        rw [← Option.not_isSome_iff_eq_none, isSome_below?_iff ha.slash_not_mem hfirst,
          String.toList_inj]
        exact heq
      rw [hnone]
      simp [heq]

/-- A pattern whose last name is literal does not end in stars. -/
theorem not_stars_suffix (hb : IsLiteral b) (front : List Char) :
    ¬ "/**".toList <:+ front ++ '/' :: b.toList := by
  rintro ⟨rest, h⟩
  have hlast : ('/' :: b.toList).getLast? = some '*' := by
    rw [← List.getLast?_append_of_ne_nil front (List.cons_ne_nil _ _), ← h,
      List.getLast?_append_of_ne_nil rest (by decide)]
    rfl
  rcases List.mem_cons.mp (List.mem_of_getLast? hlast) with hslash | hstar
  · exact absurd hslash (by decide)
  · exact (hb '*' hstar).1 rfl

/-- Two stars between literal names, behind stars in front, stand for one directory or more: the
pattern accepts the paths that end in the first name, some directories and the second name. The
pattern without the stars in front takes them for any number of directories, also for none. So the
first pattern accepts the paths of which the second accepts a tail exactly if the path does not end
in the two names one below the other, or has the two names with directories between them at its end
as well. -/
theorem accepts_innerStars_iff (a b : String) (ha : IsLiteral a) (hb : IsLiteral b)
    (names : List String) (hnames : names ≠ []) (hslash : ∀ name ∈ names, '/' ∉ name.toList) :
    let inner := a ++ "/**/" ++ b
    let acceptsTail :=
      ∃ tail, tail ≠ [] ∧ tail <:+ names ∧ accepts inner (Text.join "/" tail) = true
    (acceptsTail ↔ ∃ between, a :: (between ++ [b]) <:+ names) ∧
    (accepts ("**/" ++ inner) (Text.join "/" names) = true ↔
      ∃ between, between ≠ [] ∧ a :: (between ++ [b]) <:+ names) ∧
    ((accepts ("**/" ++ inner) (Text.join "/" names) = true ↔ acceptsTail) ↔
      ¬ [a, b] <:+ names ∨ ∃ between, between ≠ [] ∧ a :: (between ++ [b]) <:+ names) := by
  intro inner acceptsTail
  have htailSlash {tail : List String} (h : tail <:+ names) : ∀ name ∈ tail, '/' ∉ name.toList :=
    fun name hname => hslash name (h.subset hname)
  have hinner : acceptsTail ↔ ∃ between, a :: (between ++ [b]) <:+ names := by
    constructor
    · rintro ⟨tail, hne, hsuffix, h⟩
      obtain ⟨between, rfl⟩ := (accepts_inner_iff ha hb hne (htailSlash hsuffix)).mp h
      exact ⟨between, hsuffix⟩
    · rintro ⟨between, hsuffix⟩
      exact ⟨_, List.cons_ne_nil _ _, hsuffix,
        (accepts_inner_iff ha hb (List.cons_ne_nil _ _) (htailSlash hsuffix)).mpr ⟨between, rfl⟩⟩
  have houter : accepts ("**/" ++ inner) (Text.join "/" names) = true ↔
      ∃ between, between ≠ [] ∧ a :: (between ++ [b]) <:+ names := by
    have hlist : ("**/" ++ inner).toList =
        "**/".toList ++ (a.toList ++ ("/**/".toList ++ b.toList)) := by
      simp only [inner, String.toList_append, List.append_assoc]
    have hstarred :
        ¬ "/**".toList <:+ "**/".toList ++ (a.toList ++ ("/**/".toList ++ b.toList)) := by
      have hend := not_stars_suffix hb ("**/".toList ++ (a.toList ++ "/**".toList))
      simpa using hend
    rw [accepts, hlist, matchPath_tail hstarred, matchesTail_join hnames hslash]
    constructor
    · rintro ⟨tail, hne, hsuffix, h⟩
      obtain ⟨between, hbetween, rfl⟩ :=
        (wildcard_inner_join ha hb hne (htailSlash hsuffix)).mp h
      exact ⟨between, hbetween, hsuffix⟩
    · rintro ⟨between, hbetween, hsuffix⟩
      exact ⟨_, List.cons_ne_nil _ _, hsuffix, (wildcard_inner_join ha hb (List.cons_ne_nil _ _)
        (htailSlash hsuffix)).mpr ⟨between, hbetween, rfl⟩⟩
  refine ⟨hinner, houter, ?_⟩
  rw [houter, hinner]
  constructor
  · intro h
    by_cases hadjacent : [a, b] <:+ names
    · exact Or.inr (h.mpr ⟨[], hadjacent⟩)
    · exact Or.inl hadjacent
  · intro h
    constructor
    · rintro ⟨between, -, hsuffix⟩
      exact ⟨between, hsuffix⟩
    · rintro ⟨between, hsuffix⟩
      rcases h with hadjacent | h
      · refine ⟨between, ?_, hsuffix⟩
        rintro rfl
        exact hadjacent hsuffix
      · exact h

/-- With directories between the names a path is accepted, and so is a tail of it without the stars
in front. -/
theorem accepts_innerStars_deep :
    let names := ["lib", "src", "a", "b", "conf.py"]
    accepts "**/src/**/conf.py" "lib/src/a/b/conf.py" = true ∧
      ∃ tail, tail ≠ [] ∧ tail <:+ names ∧
        accepts "src/**/conf.py" (Text.join "/" tail) = true := by
  intro names
  obtain ⟨-, houter, hagree⟩ := accepts_innerStars_iff "src" "conf.py" (by decide +kernel)
    (by decide +kernel) names (List.cons_ne_nil _ _) (by decide)
  have hends : ∃ between, between ≠ [] ∧ "src" :: (between ++ ["conf.py"]) <:+ names :=
    ⟨["a", "b"], List.cons_ne_nil _ _, ["lib"], rfl⟩
  have haccepts : accepts "**/src/**/conf.py" "lib/src/a/b/conf.py" = true := houter.mpr hends
  exact ⟨haccepts, (hagree.mpr (Or.inr hends)).mp haccepts⟩

/-- With no directory between them, stars in front make the pattern reject a path that it accepts
without. -/
theorem accepts_innerStars_adjacent :
    accepts "src/**/conf.py" "src/conf.py" = true ∧
      accepts "**/src/**/conf.py" "src/conf.py" = false :=
  ⟨by decide +kernel, by decide +kernel⟩

end NodeLint.Glob
