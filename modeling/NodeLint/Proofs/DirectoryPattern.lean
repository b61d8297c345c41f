import NodeLint.Proofs.Base

/-!
# Patterns for directories

Two kinds of path patterns are written for all that is below a directory: `**/NAMES/**` for a
directory anywhere, and `FRONT/**` for one at the top. Here it is said which paths they accept.

The first kind is compared with one directory of the path after the other, so that it accepts
nothing if several names stand between its stars. The second takes its front literally, so that
wildcards in it mean nothing. That is what they would mean exactly if the front is plain: each of
its characters stands for itself.
-/

namespace NodeLint.Glob

/-! ## Plain patterns -/

/-- A pattern is plain if each of its characters stands for itself. -/
def IsPlain (pattern : List Char) : Prop := pieces pattern = pattern.map .char

/-- A plain pattern accepts itself only. -/
theorem IsPlain.wildcard_iff {pattern : List Char} (h : IsPlain pattern) (text : List Char) :
    wildcard pattern text = true ↔ text = pattern := by
  rw [wildcard, h, matchPieces_chars]

/-- Characters that are no wildcards stand for themselves, whatever follows them. -/
theorem pieces_append_of_forall {front : List Char}
    (h : ∀ c ∈ front, c ≠ '*' ∧ c ≠ '?' ∧ c ≠ '[') (back : List Char) :
    pieces (front ++ back) = front.map .char ++ pieces back := by
  unfold pieces
  induction front with
  | nil => rfl
  | cons c cs ih =>
    obtain ⟨hrun, hone, hset⟩ := h c List.mem_cons_self
    have hcs := ih fun d hd => h d (List.mem_cons_of_mem c hd)
    rw [List.cons_append, List.length_cons, piecesFrom, if_neg hrun, if_neg hone, if_neg hset, hcs,
      List.map_cons, List.cons_append]

/-- A pattern without wildcard characters is plain. -/
theorem isPlain_of_forall {pattern : List Char}
    (h : ∀ c ∈ pattern, c ≠ '*' ∧ c ≠ '?' ∧ c ≠ '[') : IsPlain pattern := by
  have hnil : pieces [] = [] := rfl
  have hpieces := pieces_append_of_forall h []
  rwa [hnil, List.append_nil, List.append_nil] at hpieces

/-- A piece that is no run takes one character, whatever the other pieces take. -/
theorem exists_cons_of_matchPieces {p : Piece} {ps : List Piece} {text : List Char}
    (hp : p ≠ .run) (h : matchPieces (p :: ps) text = true) :
    ∃ c cs, text = c :: cs ∧ matchPieces ps cs = true ∧
      ∀ ps' cs', matchPieces ps' cs' = true → matchPieces (p :: ps') (c :: cs') = true := by
  cases text with
  | nil => cases p <;> simp [matchPieces] at h hp
  | cons c cs =>
    refine ⟨c, cs, rfl, ?_⟩
    cases p with
    | run => exact absurd rfl hp
    | one => exact ⟨h, fun _ _ h' => h'⟩
    | char d | set s =>
      rw [matchPieces, Bool.and_eq_true] at h
      refine ⟨h.2, ?_⟩
      intro ps' cs' hcs'
      rw [matchPieces, h.1, hcs', Bool.and_true]

section
variable {ps : List Piece} {text : List Char}

/-- With a run among the pieces there is a longer text that they match. -/
theorem exists_longer (hrun : .run ∈ ps) (h : matchPieces ps text = true) (hslash : '/' ∉ text) :
    ∃ longer, matchPieces ps longer = true ∧ '/' ∉ longer ∧ longer.length = text.length + 1 := by
  induction ps generalizing text with
  | nil => cases hrun
  | cons p ps ih =>
    by_cases hp : p = .run
    · subst hp
      rw [matchPieces, someTail_iff] at h
      obtain ⟨tail, htail, hmatch⟩ := h
      refine ⟨'a' :: text, ?_, by simp [hslash], rfl⟩
      rw [matchPieces, someTail_iff]
      exact ⟨tail, htail.trans (List.suffix_cons 'a' text), hmatch⟩
    · obtain ⟨c, cs, rfl, hcs, hagain⟩ := exists_cons_of_matchPieces hp h
      rw [List.mem_cons, not_or] at hslash
      have hrest := (List.mem_cons.mp hrun).resolve_left (Ne.symm hp)
      obtain ⟨longer, hlonger, hfree, hlength⟩ := ih hrest hcs hslash.2
      refine ⟨c :: longer, hagain ps longer hlonger, by simp [hslash.1, hfree], ?_⟩
      rw [List.length_cons, List.length_cons, hlength]

/-- Without a run each piece takes one character. -/
theorem length_eq_of_matchPieces (hrun : .run ∉ ps) (h : matchPieces ps text = true) :
    text.length = ps.length := by
  induction ps generalizing text with
  | nil => simpa [matchPieces] using h
  | cons p ps ih =>
    rw [List.mem_cons, not_or] at hrun
    obtain ⟨c, cs, rfl, hcs, -⟩ := exists_cons_of_matchPieces (Ne.symm hrun.1) h
    rw [List.length_cons, List.length_cons, ih hrun.2 hcs]

/-- With a piece for any character there is another text that the pieces match. -/
theorem exists_other (hrun : .run ∉ ps) (hone : .one ∈ ps) (h : matchPieces ps text = true)
    (hslash : '/' ∉ text) : ∃ other, other ≠ text ∧ matchPieces ps other = true ∧ '/' ∉ other := by
  induction ps generalizing text with
  | nil => cases hone
  | cons p ps ih =>
    rw [List.mem_cons, not_or] at hrun
    obtain ⟨c, cs, rfl, hcs, hagain⟩ := exists_cons_of_matchPieces (Ne.symm hrun.1) h
    rw [List.mem_cons, not_or] at hslash
    by_cases hp : p = .one
    · subst hp
      by_cases hc : c = 'a'
      · exact ⟨'b' :: cs, by simp [hc], hcs, by simp [hslash.2]⟩
      · exact ⟨'a' :: cs, by simp [Ne.symm hc], hcs, by simp [hslash.2]⟩
    · have hrest := (List.mem_cons.mp hone).resolve_left (Ne.symm hp)
      obtain ⟨other, hother, hmatch, hfree⟩ := ih hrun.2 hrest hcs hslash.2
      exact ⟨c :: other, by simp [hother], hagain ps other hmatch, by simp [hslash.1, hfree]⟩

end

/-- What follows brackets stands behind a closing bracket. -/
theorem suffix_of_brackets? {cs inside after : List Char}
    (h : brackets? cs = some (inside, after)) : ']' :: after <:+ cs := by
  unfold brackets? at h
  dsimp only at h
  split at h
  · rename_i c rest hrest
    obtain ⟨-, rfl⟩ := Prod.mk.inj (Option.some.inj h)
    have hclose : c = ']' := by simpa using Text.head?_dropWhile (congrArg List.head? hrest)
    rw [← hclose, ← hrest]
    exact (List.dropWhile_suffix _).trans (List.drop_suffix _ cs)
  · cases h

/-- Behind brackets less is left than from their inside on. -/
theorem length_of_brackets? {cs inside after : List Char}
    (h : brackets? cs = some (inside, after)) : after.length < cs.length :=
  (suffix_of_brackets? h).length_le

/-- A pattern has no more pieces than characters. -/
theorem length_piecesFrom_le (fuel : Nat) (cs : List Char) :
    (piecesFrom fuel cs).length ≤ cs.length := by
  induction fuel generalizing cs with
  | zero => exact Nat.zero_le _
  | succ fuel ih =>
    cases cs with
    | nil => exact Nat.le_refl 0
    | cons c cs =>
      have hone (p : Piece) : (p :: piecesFrom fuel cs).length ≤ (c :: cs).length :=
        Nat.succ_le_succ (ih cs)
      rw [piecesFrom]
      split
      · exact hone _
      · split
        · exact hone _
        · split
          · split
            · rename_i inside after hbrackets
              have hafter := length_of_brackets? hbrackets
              have hle := ih after
              simp only [List.length_cons]
              omega
            · exact hone _
          · exact hone _

/-- A pattern with as many pieces as characters, none of which is a wildcard, consists of these
characters. -/
theorem piecesFrom_eq_map (fuel : Nat) (cs : List Char)
    (hlength : (piecesFrom fuel cs).length = cs.length) (hrun : .run ∉ piecesFrom fuel cs)
    (hone : .one ∉ piecesFrom fuel cs) : piecesFrom fuel cs = cs.map .char := by
  induction fuel generalizing cs with
  | zero => rw [List.eq_nil_of_length_eq_zero hlength.symm]; rfl
  | succ fuel ih =>
    cases cs with
    | nil => rfl
    | cons c cs =>
      have hchar (d : Char) (hd : d = c)
          (hpieces : piecesFrom (fuel + 1) (c :: cs) = .char d :: piecesFrom fuel cs) :
          piecesFrom (fuel + 1) (c :: cs) = (c :: cs).map .char := by
        rw [hpieces] at hlength hrun hone
        rw [hpieces, hd, List.map_cons, ih cs (Nat.succ.inj hlength)
          (fun h => hrun (List.mem_cons_of_mem _ h)) (fun h => hone (List.mem_cons_of_mem _ h))]
      by_cases hstar : c = '*'
      · rw [piecesFrom, if_pos hstar] at hrun
        exact absurd List.mem_cons_self hrun
      by_cases hmark : c = '?'
      · rw [piecesFrom, if_neg hstar, if_pos hmark] at hone
        exact absurd List.mem_cons_self hone
      by_cases hopen : c = '['
      · cases hbrackets : brackets? cs with
        | none =>
          apply hchar '[' hopen.symm
          rw [piecesFrom, if_neg hstar, if_neg hmark, if_pos hopen, hbrackets]
        | some found =>
          obtain ⟨inside, after⟩ := found
          rw [piecesFrom, if_neg hstar, if_neg hmark, if_pos hopen, hbrackets] at hlength
          simp only [List.length_cons] at hlength
          have hafter := length_of_brackets? hbrackets
          have hle := length_piecesFrom_le fuel after
          omega
      · apply hchar c rfl
        rw [piecesFrom, if_neg hstar, if_neg hmark, if_neg hopen]

/-- Of the patterns for a name, the plain ones are those that accept just themselves. -/
theorem isPlain_iff {pattern : List Char} (hslash : '/' ∉ pattern) :
    IsPlain pattern ↔ ∀ text, '/' ∉ text → (wildcard pattern text = true ↔ text = pattern) := by
  constructor
  · intro h text _
    exact h.wildcard_iff text
  · intro h
    have hself : matchPieces (pieces pattern) pattern = true := (h pattern hslash).mpr rfl
    have hrun : .run ∉ pieces pattern := by
      intro hrun
      obtain ⟨longer, hlonger, hfree, hlength⟩ := exists_longer hrun hself hslash
      rw [(h longer hfree).mp hlonger] at hlength
      omega
    have hone : .one ∉ pieces pattern := by
      intro hone
      obtain ⟨other, hother, hmatch, hfree⟩ := exists_other hrun hone hself hslash
      exact hother ((h other hfree).mp hmatch)
    exact piecesFrom_eq_map _ pattern (length_eq_of_matchPieces hrun hself).symm hrun hone

/-! ## Directories anywhere -/

/-- The text of several names begins with the first name and a slash. -/
theorem toList_join_cons (name : String) {names : List String} (hnames : names ≠ []) :
    (Text.join "/" (name :: names)).toList =
      name.toList ++ '/' :: (Text.join "/" names).toList := by
  obtain ⟨next, rest, rfl⟩ := List.exists_cons_of_ne_nil hnames
  have hjoin : Text.join "/" (name :: next :: rest) = name ++ "/" ++ Text.join "/" (next :: rest) :=
    rfl
  rw [hjoin, String.toList_append, String.toList_append, List.append_assoc]
  rfl

/-- A pattern that ends in stars is of one of three kinds: it has stars at both ends, it has stars
inside, or all before its stars is its front. -/
theorem matchPath_starred (front path : List Char) :
    matchPath (front ++ "/**".toList) path =
      if "**/".toList.isPrefixOf (front ++ "/**".toList) then
        (Text.pieces '/' path).dropLast.any
          (wildcard (((front ++ "/**".toList).drop 3).take (front.length - 3)))
      else match splitAt? "/**/".toList (front ++ "/**".toList) with
        | some (start, tail) => (below? start path).any (matchesTail tail)
        | none => decide (path = front) || (below? front path).isSome := by
  have hoccurs : occurs "**".toList (front ++ "/**".toList) = true :=
    (occurs_iff (by decide) _).mpr ⟨front ++ ['/'], [], by simp⟩
  have hstarred : "/**".toList.isSuffixOf (front ++ "/**".toList) = true :=
    List.isSuffixOf_iff_suffix.mpr (List.suffix_append _ _)
  have hlength : (front ++ "/**".toList).length = front.length + 3 := List.length_append
  have hfront : (front ++ "/**".toList).take (front.length + 3 - 3) = front := List.take_left
  have hmiddle : front.length + 3 - 6 = front.length - 3 := by omega
  simp only [matchPath, hoccurs, hstarred, hlength, hfront, hmiddle]
  cases "**/".toList.isPrefixOf (front ++ "/**".toList) <;> rfl

/-- A pattern with stars on both sides is compared with each directory of a path. -/
theorem matchPath_between (middle path : List Char) :
    matchPath ("**/".toList ++ middle ++ "/**".toList) path =
      (Text.pieces '/' path).dropLast.any (wildcard middle) := by
  have hstarry : "**/".toList.isPrefixOf ("**/".toList ++ middle ++ "/**".toList) = true :=
    List.isPrefixOf_iff_prefix.mpr ((List.prefix_append _ _).trans (List.prefix_append _ _))
  have hdrop : ("**/".toList ++ middle ++ "/**".toList).drop 3 = middle ++ "/**".toList := rfl
  have hlength : ("**/".toList ++ middle).length - 3 = middle.length := rfl
  rw [matchPath_starred, hstarry, if_pos rfl, hdrop, hlength, List.take_left]

/-- A name without wildcards and without slashes. -/
def IsLiteral (name : String) : Prop :=
  ∀ c ∈ name.toList, c ≠ '*' ∧ c ≠ '?' ∧ c ≠ '[' ∧ c ≠ '/'

instance (name : String) : Decidable (IsLiteral name) :=
  List.decidableBAll (fun c => c ≠ '*' ∧ c ≠ '?' ∧ c ≠ '[' ∧ c ≠ '/') name.toList

theorem IsLiteral.slash_not_mem {name : String} (h : IsLiteral name) : '/' ∉ name.toList :=
  fun hslash => (h '/' hslash).2.2.2 rfl

theorem IsLiteral.ne {name : String} (h : IsLiteral name) :
    ∀ c ∈ name.toList, c ≠ '*' ∧ c ≠ '?' ∧ c ≠ '[' := by
  intro c hc
  obtain ⟨hrun, hone, hset, -⟩ := h c hc
  exact ⟨hrun, hone, hset⟩

/-- Literal names with slashes between them are plain. -/
theorem isPlain_join {names : List String} (h : ∀ name ∈ names, IsLiteral name) :
    IsPlain (Text.join "/" names).toList := by
  apply isPlain_of_forall
  induction names with
  | nil => exact fun c hc => absurd hc List.not_mem_nil
  | cons name names ih =>
    have hname := (h name List.mem_cons_self).ne
    by_cases hnames : names = []
    · subst hnames
      exact hname
    · intro c hc
      rw [toList_join_cons name hnames, List.mem_append, List.mem_cons] at hc
      rcases hc with hc | rfl | hc
      · exact hname c hc
      · decide
      · exact ih (fun n hn => h n (List.mem_cons_of_mem name hn)) c hc

/-- Names with slashes between them are a single name only if there is just that name. -/
theorem toList_join_eq_iff {names : List String} {name : String} (hnames : names ≠ [])
    (hslash : ∀ n ∈ names, '/' ∉ n.toList) (hname : '/' ∉ name.toList) :
    name.toList = (Text.join "/" names).toList ↔ names = [name] := by
  constructor
  · intro h
    have hpieces := Text.pieces_join hnames hslash
    rw [← h, Text.pieces_of_not_mem hname] at hpieces
    obtain ⟨n, rfl, hn⟩ := List.map_eq_singleton_iff.mp hpieces.symm
    rw [String.toList_inj.mp hn]
  · rintro rfl
    rfl

/-- A pattern for literal names with stars on both sides accepts the paths with the name among their
directories if it is a single one, and nothing if there are several. So it accepts the paths in
which the names are directories one below the other exactly if there is one name, or if the path is
no such path. With a single name, settings that exclude the pattern admit nothing below such a
directory. -/
theorem accepts_between_iff (middle names : List String) (hmiddle : middle ≠ [])
    (hliteral : ∀ m ∈ middle, IsLiteral m) (hnames : names ≠ [])
    (hslash : ∀ name ∈ names, '/' ∉ name.toList) :
    let pattern := "**/" ++ Text.join "/" middle ++ "/**"
    (accepts pattern (Text.join "/" names) = true ↔ ∃ m, middle = [m] ∧ m ∈ names.dropLast) ∧
    ((accepts pattern (Text.join "/" names) = true ↔ middle <:+: names.dropLast) ↔
      middle.length = 1 ∨ ¬ middle <:+: names.dropLast) ∧
    ∀ s : Settings, pattern ∈ s.excluded → middle.length = 1 → middle <:+: names.dropLast →
      ¬ s.Admits ⟨.relative, names⟩ := by
  intro pattern
  have hmatch (name : String) (hname : name ∈ names.dropLast) :
      wildcard (Text.join "/" middle).toList name.toList = true ↔ middle = [name] := by
    rw [(isPlain_join hliteral).wildcard_iff, toList_join_eq_iff hmiddle
      (fun m hm => (hliteral m hm).slash_not_mem)
      (hslash name (List.mem_of_mem_dropLast hname))]
  have haccepts : accepts pattern (Text.join "/" names) = true ↔
      ∃ m, middle = [m] ∧ m ∈ names.dropLast := by
    rw [accepts, String.toList_append, String.toList_append, matchPath_between,
      Text.pieces_join hnames hslash, ← List.map_dropLast, List.any_map, List.any_eq_true]
    constructor
    · rintro ⟨name, hname, h⟩
      exact ⟨name, (hmatch name hname).mp h, hname⟩
    · rintro ⟨name, h, hname⟩
      exact ⟨name, hname, (hmatch name hname).mpr h⟩
  have hsingle : middle.length = 1 → middle <:+: names.dropLast →
      accepts pattern (Text.join "/" names) = true := by
    intro hlength hinfix
    obtain ⟨m, rfl⟩ := List.length_eq_one_iff.mp hlength
    exact haccepts.mpr ⟨m, rfl, hinfix.subset List.mem_cons_self⟩
  refine ⟨haccepts, ?_, ?_⟩
  · constructor
    · intro h
      by_cases hinfix : middle <:+: names.dropLast
      · obtain ⟨m, rfl, -⟩ := haccepts.mp (h.mpr hinfix)
        exact Or.inl rfl
      · exact Or.inr hinfix
    · intro h
      constructor
      · intro hyes
        obtain ⟨m, rfl, hm⟩ := haccepts.mp hyes
        obtain ⟨above, below, hsplit⟩ := List.append_of_mem hm
        exact ⟨above, below, by rw [hsplit, List.append_assoc, List.singleton_append]⟩
      · intro hinfix
        exact hsingle (h.resolve_right fun hno => hno hinfix) hinfix
  · intro s hpattern hlength hinfix hadmits
    have hexcluded := hadmits.1 pattern hpattern
    rw [Path.text_relative hnames, hsingle hlength hinfix] at hexcluded
    cases hexcluded

/-- A directory is found at any depth by its name. -/
theorem accepts_between_generated :
    let s : Settings := { excluded := ["**/generated/**"] }
    accepts "**/generated/**" "src/generated/a.py" = true ∧
      ¬ s.Admits ⟨.relative, ["src", "generated", "a.py"]⟩ := by
  obtain ⟨haccepts, -, hadmits⟩ := accepts_between_iff ["generated"] ["src", "generated", "a.py"]
    (List.cons_ne_nil _ _) (by decide +kernel) (List.cons_ne_nil _ _) (by decide +kernel)
  exact ⟨haccepts.mpr ⟨"generated", rfl, by decide⟩,
    hadmits _ List.mem_cons_self rfl ⟨["src"], [], rfl⟩⟩

/-- A path below two directories is not accepted by the pattern that names both, and it is admitted
although the pattern is excluded. -/
theorem accepts_between_sourceGenerated :
    let s : Settings := { excluded := ["**/src/generated/**"] }
    ["src", "generated"] <:+: ["src", "generated", "a.py"].dropLast ∧
      accepts "**/src/generated/**" "src/generated/a.py" = false ∧
      s.Admits ⟨.relative, ["src", "generated", "a.py"]⟩ :=
  ⟨⟨[], [], rfl⟩, by decide +kernel, by decide +kernel⟩

/-! ## Directories at the top -/

/-- The text of a first name and a slash is the front of a path exactly if the path begins with that
name. -/
theorem isSome_below?_iff {front first : List Char} (hfront : '/' ∉ front) (hfirst : '/' ∉ first)
    (rest : List Char) : (below? front (first ++ '/' :: rest)).isSome = true ↔ first = front := by
  simp only [Option.isSome_iff_exists, below?_eq_some_iff]
  constructor
  · rintro ⟨behind, h⟩
    have hpieces := congrArg (Text.pieces '/') h
    rw [Text.pieces_append_sep hfront, Text.pieces_append_sep hfirst, List.cons.injEq] at hpieces
    exact hpieces.1
  · rintro rfl
    exact ⟨rest, rfl⟩

/-- A pattern for what is below a single name, in which `**` does not occur, takes the name
literally. -/
theorem matchPath_front {segment : List Char} (hslash : '/' ∉ segment)
    (hstars : ¬ "**".toList <:+: segment) (path : List Char) :
    matchPath (segment ++ "/**".toList) path =
      (decide (path = segment) || (below? segment path).isSome) := by
  have hstarry : ¬ "**/".toList.isPrefixOf (segment ++ "/**".toList) = true := by
    rw [List.isPrefixOf_iff_prefix]
    rintro ⟨rest, h⟩
    have hpieces := congrArg (Text.pieces '/') h
    have hrest : "**/".toList ++ rest = "**".toList ++ '/' :: rest := rfl
    have hstars' : "/**".toList = '/' :: "**".toList := rfl
    rw [hrest, hstars', Text.pieces_append_sep hslash, Text.pieces_append_sep (by decide),
      List.cons.injEq] at hpieces
    exact hstars (hpieces.1 ▸ List.infix_rfl)
  have hsplit : splitAt? "/**/".toList (segment ++ "/**".toList) = none := by
    rw [← Option.not_isSome_iff_eq_none]
    intro hsome
    have hinfix := (occurs_iff (by decide) _).mp hsome
    have hcount := hinfix.sublist.count_le '/'
    rw [List.count_append, List.count_eq_zero.mpr hslash] at hcount
    exact absurd hcount (by decide)
  rw [matchPath_starred, if_neg hstarry, hsplit]

/-- Names of a path below its first one. -/
def IsNested (first : String) (rest : List String) : Prop :=
  rest ≠ [] ∧ ∀ name ∈ first :: rest, '/' ∉ name.toList

/-- A pattern for what is below a single name, in which `**` does not occur, accepts a path of
several names exactly if its first name is the text of the pattern's name. That is, it accepts the
paths whose first name the pattern's name matches as a wildcard pattern exactly if that name is
plain. Settings that exclude the pattern of a plain name admit nothing below a directory that the
name matches. -/
theorem accepts_front_iff (segment : String) (hslash : '/' ∉ segment.toList)
    (hstars : ¬ "**".toList <:+: segment.toList) :
    (∀ first rest, IsNested first rest →
      (accepts (segment ++ "/**") (Text.join "/" (first :: rest)) = true ↔ first = segment)) ∧
    ((∀ first rest, IsNested first rest →
      (accepts (segment ++ "/**") (Text.join "/" (first :: rest)) = true ↔
        wildcard segment.toList first.toList = true)) ↔ IsPlain segment.toList) ∧
    ∀ s : Settings, segment ++ "/**" ∈ s.excluded → IsPlain segment.toList →
      ∀ first rest, IsNested first rest → wildcard segment.toList first.toList = true →
        ¬ s.Admits ⟨.relative, first :: rest⟩ := by
  have haccepts (first : String) (rest : List String) (h : IsNested first rest) :
      accepts (segment ++ "/**") (Text.join "/" (first :: rest)) = true ↔ first = segment := by
    obtain ⟨hrest, hnames⟩ := h
    have hfirst : '/' ∉ first.toList := hnames first List.mem_cons_self
    have hpath : first.toList ++ '/' :: (Text.join "/" rest).toList ≠ segment.toList := by
      intro h
      exact hslash (h ▸ List.mem_append_right _ List.mem_cons_self)
    rw [accepts, String.toList_append, matchPath_front hslash hstars, toList_join_cons first hrest,
      decide_eq_false hpath, Bool.false_or, isSome_below?_iff hslash hfirst, String.toList_inj]
  have hplain (h : IsPlain segment.toList) (first : String) :
      wildcard segment.toList first.toList = true ↔ first = segment := by
    rw [h.wildcard_iff, String.toList_inj]
  refine ⟨haccepts, ?_, ?_⟩
  · rw [isPlain_iff hslash]
    constructor
    · intro h text htext
      have hnested : IsNested (String.ofList text) ["a"] := by
        refine ⟨List.cons_ne_nil _ _, ?_⟩
        rw [List.forall_mem_cons, String.toList_ofList]
        exact ⟨htext, by decide⟩
      have hfirst := (h _ _ hnested).symm.trans (haccepts _ _ hnested)
      rwa [← String.toList_inj, String.toList_ofList] at hfirst
    · intro h first rest hnested
      rw [haccepts first rest hnested, h first.toList (hnested.2 first List.mem_cons_self),
        String.toList_inj]
  · intro s hpattern h first rest hnested hmatch hadmits
    have hexcluded := hadmits.1 _ hpattern
    rw [Path.text_relative (List.cons_ne_nil _ _),
      (haccepts first rest hnested).mpr ((hplain h first).mp hmatch)] at hexcluded
    cases hexcluded

/-- An open bracket that is never closed is plain: only the directory of that name is meant. -/
theorem accepts_front_openBracket :
    let s : Settings := { excluded := ["a[b/**"] }
    accepts "a[b/**" "a[b/c/d.py" = true ∧ accepts "a[b/**" "ab/c/d.py" = false ∧
      ¬ s.Admits ⟨.relative, ["a[b", "c", "d.py"]⟩ := by
  have hnested (first : String) (h : '/' ∉ first.toList) : IsNested first ["c", "d.py"] :=
    ⟨List.cons_ne_nil _ _, List.forall_mem_cons.mpr ⟨h, by decide⟩⟩
  obtain ⟨haccepts, -, hadmits⟩ :=
    accepts_front_iff "a[b" (by decide) (by decide +kernel)
  refine ⟨(haccepts "a[b" _ (hnested _ (by decide))).mpr rfl, ?_, ?_⟩
  · rw [Bool.eq_false_iff]
    exact fun h => absurd ((haccepts "ab" _ (hnested _ (by decide))).mp h) (by decide)
  · exact hadmits _ List.mem_cons_self rfl _ _ (hnested _ (by decide)) (by decide +kernel)

/-- The default pattern for the metadata of packages matches the name of such a directory, but it
accepts nothing below it, and by default a source there is admitted. -/
theorem accepts_front_eggInfo :
    "*.egg-info/**" ∈ defaultExcludes ∧
      wildcard "*.egg-info".toList "a.egg-info".toList = true ∧
      accepts "*.egg-info/**" "a.egg-info/b.py" = false ∧
      ({} : Settings).Admits ⟨.relative, ["a.egg-info", "b.py"]⟩ :=
  ⟨by decide, by decide +kernel, by decide +kernel, by decide +kernel⟩

end NodeLint.Glob
