import NodeLint.Proofs.Gap
import NodeLint.Proofs.InnerStars

/-!
# Patterns for subtrees

A pattern that ends in `/**` looks only at the directories of a path, if the path is not what stands
before its stars. Which of the three kinds of such patterns it is does not matter, nor does what
wildcards, brackets or further stars it holds: what it accepts, it accepts along with all that
stands in the same directory or below.

A path is taken here as a text up to its last slash and a name behind it. Whatever the pattern needs
ends at a slash of the path, so that it is still there when the name is replaced.
-/

namespace NodeLint

namespace Glob

/-! ## Wildcards before stars -/

/-- No bracket reaches over a slash and stars at the end of a pattern. -/
theorem piecesFrom_append_stars {fuel : Nat} {front : List Char}
    (hfuel : (front ++ "/**".toList).length ≤ fuel) :
    ∃ ps, piecesFrom fuel (front ++ "/**".toList) = ps ++ [.char '/', .run, .run] := by
  induction fuel generalizing front with
  | zero =>
    rw [List.length_append] at hfuel
    exact absurd (Nat.le_trans (Nat.le_add_left _ _) hfuel) (by decide)
  | succ fuel ih =>
    cases front with
    | nil =>
      obtain ⟨left, rfl⟩ := Nat.exists_eq_add_of_le' (Nat.le_of_succ_le_succ hfuel)
      refine ⟨[], ?_⟩
      cases left <;> rfl
    | cons c front =>
      have hrest : (front ++ "/**".toList).length ≤ fuel := Nat.le_of_succ_le_succ hfuel
      have hone (p : Piece) : ∃ ps, p :: piecesFrom fuel (front ++ "/**".toList) =
          ps ++ [.char '/', .run, .run] := by
        obtain ⟨ps, hps⟩ := ih hrest
        exact ⟨p :: ps, by rw [hps, List.cons_append]⟩
      rw [List.cons_append, piecesFrom]
      split
      · exact hone _
      · split
        · exact hone _
        · split
          · split
            · rename_i inside after hbrackets
              -- The closing bracket stands before the slash, since there is none behind it.
              have hbehind := suffix_of_brackets? hbrackets
              obtain ⟨front', rfl⟩ : "/**".toList <:+ after := by
                rcases List.suffix_or_suffix_of_suffix hbehind (List.suffix_append front _) with
                  hinside | hbefore
                · exact absurd (hinside.subset List.mem_cons_self) (by decide)
                · exact (List.suffix_cons_iff.mp hbefore).resolve_left
                    fun h => absurd (List.cons.inj h).1 (by decide)
              have hlength := (length_of_brackets? hbrackets).le.trans hrest
              obtain ⟨ps, hps⟩ := ih hlength
              exact ⟨_ :: ps, by rw [hps, List.cons_append]⟩
            · exact hone _
          · exact hone _

/-- A pattern that ends in stars matches a text up to some slash, whatever follows the slash. -/
theorem exists_of_wildcard_stars {front text : List Char}
    (h : wildcard (front ++ "/**".toList) text = true) :
    ∃ left right, text = left ++ '/' :: right ∧
      ∀ right', wildcard (front ++ "/**".toList) (left ++ '/' :: right') = true := by
  obtain ⟨ps, hps⟩ := piecesFrom_append_stars (Nat.le_refl (front ++ "/**".toList).length)
  have hmatch (text : List Char) : wildcard (front ++ "/**".toList) text = true ↔
      ∃ left right, text = left ++ '/' :: right ∧ matchPieces ps left = true := by
    rw [wildcard, pieces, hps, matchPieces_append]
    simp only [matchPieces_slash_run]
    constructor
    · rintro ⟨left, -, rfl, hleft, between, rest, rfl, -⟩
      exact ⟨left, _, rfl, hleft⟩
    · rintro ⟨left, right, rfl, hleft⟩
      exact ⟨left, _, rfl, hleft, right, [], by rw [List.append_nil], rfl⟩
  obtain ⟨left, right, htext, hleft⟩ := (hmatch text).mp h
  exact ⟨left, right, htext, fun right' => (hmatch _).mpr ⟨left, right', rfl, hleft⟩⟩

/-! ## Replacing the last name -/

section
variable {up name : List Char} (hname : '/' ∉ name) (more : List Char)
include hname

/-- A slash of a path stands before its last name. -/
theorem exists_of_slash {left right : List Char} (h : up ++ name = left ++ '/' :: right) :
    ∃ between, up = left ++ '/' :: between ∧ right = between ++ name := by
  rcases Source.append_eq_append_cons h with hup | ⟨rest, -, hrest⟩
  · exact hup
  · exact absurd (hrest ▸ List.mem_append_right rest List.mem_cons_self) hname

/-- What is below a front stays below it with another name at the end. -/
theorem below?_replace {front rest : List Char} (h : below? front (up ++ name) = some rest) :
    ∃ between, rest = between ++ name ∧ below? front (up ++ more) = some (between ++ more) := by
  obtain ⟨between, rfl, rfl⟩ := exists_of_slash hname ((below?_eq_some_iff _ _ _).mp h)
  refine ⟨between, rfl, (below?_eq_some_iff _ _ _).mpr ?_⟩
  rw [List.append_assoc, List.cons_append]

/-- A tail that ends in stars is found again with another name at the end. -/
theorem matchesTail_replace {front : List Char}
    (h : matchesTail (front ++ "/**".toList) (up ++ name) = true) :
    matchesTail (front ++ "/**".toList) (up ++ more) = true := by
  rw [matchesTail_iff] at h ⊢
  obtain ⟨above, below, hpath, habove, hmatch⟩ := h
  obtain ⟨left, right, rfl, hagain⟩ := exists_of_wildcard_stars hmatch
  rw [← List.append_assoc] at hpath
  obtain ⟨between, rfl, -⟩ := exists_of_slash hname hpath
  refine ⟨above, left ++ '/' :: (between ++ more), ?_, habove, hagain _⟩
  simp only [List.append_assoc, List.cons_append]

end

/-! ## Splitting a pattern that ends in stars -/

/-- A text that is split stands on both sides of the mark. -/
theorem eq_of_splitAt? {mark cs left right : List Char}
    (h : splitAt? mark cs = some (left, right)) : cs = left ++ (mark ++ right) := by
  induction cs generalizing left with
  | nil => cases h
  | cons c cs ih =>
    rw [splitAt?] at h
    split at h
    · rename_i hmark
      obtain ⟨rest, hrest⟩ := List.isPrefixOf_iff_prefix.mp hmark
      obtain ⟨rfl, rfl⟩ := Prod.mk.inj (Option.some.inj h)
      rw [← hrest, List.drop_left, List.nil_append]
    · obtain ⟨⟨left', right'⟩, hsplit, heq⟩ := Option.map_eq_some_iff.mp h
      obtain ⟨rfl, rfl⟩ := Prod.mk.inj heq
      rw [ih hsplit, List.cons_append]

/-- Behind inner stars, a pattern that ends in stars is these stars alone, or it ends in stars. -/
theorem tail_cases {front start tail : List Char}
    (h : front ++ "/**".toList = start ++ ("/**/".toList ++ tail)) :
    tail = "**".toList ∨ ∃ rest, tail = rest ++ "/**".toList := by
  rw [← List.append_assoc] at h
  rcases List.append_eq_append_iff.mp h with ⟨extra, hstart, hend⟩ | ⟨rest, -, htail⟩
  · cases extra with
    | nil => exact Or.inr ⟨[], hend.symm⟩
    | cons c rest =>
      -- The slash behind the inner stars ends `rest`, unless it is the one before the last stars.
      have hstars : "**".toList = rest ++ tail := (List.cons.inj hend).2
      have hnil : rest = [] := by
        by_contra hne
        have hlast := congrArg List.getLast? hstart
        rw [List.getLast?_append_of_ne_nil start (by decide),
          List.getLast?_append_of_ne_nil front (List.cons_ne_nil c rest),
          List.getLast?_cons_of_ne_nil hne] at hlast
        have hslash : '/' ∈ "**".toList :=
          hstars ▸ List.mem_append_left tail (List.mem_of_getLast? hlast.symm)
        exact absurd hslash (by decide)
      rw [hnil] at hstars
      exact Or.inl hstars.symm
  · exact Or.inr ⟨rest, htail⟩

/-- Stars alone match every tail. -/
theorem matchesTail_stars (path : List Char) : matchesTail "**".toList path = true := by
  have hstars : wildcard "**".toList path = someTail (someTail List.isEmpty) path := rfl
  refine (matchesTail_iff _ _).mpr ⟨[], path, rfl, Or.inl rfl, ?_⟩
  rw [hstars, someTail_iff]
  exact ⟨[], List.nil_suffix, rfl⟩

/-! ## The three kinds of patterns that end in stars -/

/-- A pattern that ends in stars and does not begin with stars accepts a path with another name at
its end, if it accepts a path that is not its front. -/
theorem matchPath_replace {front up name : List Char} (hname : '/' ∉ name)
    (hself : up ++ name ≠ front)
    (hstarry : ¬ "**/".toList.isPrefixOf (front ++ "/**".toList) = true)
    (h : matchPath (front ++ "/**".toList) (up ++ name) = true) (more : List Char) :
    matchPath (front ++ "/**".toList) (up ++ more) = true := by
  rw [matchPath_starred, if_neg hstarry] at h ⊢
  cases hsplit : splitAt? "/**/".toList (front ++ "/**".toList) with
  | none =>
    rw [hsplit] at h
    simp only [hself, decide_false, Bool.false_or, Option.isSome_iff_exists] at h
    obtain ⟨rest, hrest⟩ := h
    obtain ⟨between, -, hagain⟩ := below?_replace hname more hrest
    simp [hagain]
  | some parts =>
    obtain ⟨start, tail⟩ := parts
    rw [hsplit] at h
    obtain ⟨rest, hrest, htail⟩ := (Option.any_eq_true _ _).mp h
    obtain ⟨between, rfl, hagain⟩ := below?_replace hname more hrest
    change (below? start (up ++ more)).any (matchesTail tail) = true
    rw [hagain, Option.any_some]
    rcases tail_cases (eq_of_splitAt? hsplit) with rfl | ⟨tail', rfl⟩
    · exact matchesTail_stars _
    · exact matchesTail_replace hname more htail

/-- The text of names behind others begins with a text that ends where these do. -/
theorem toList_join_append (dirs : List String) {names : List String} (hnames : names ≠ []) :
    (Text.join "/" (dirs ++ names)).toList =
      (dirs.flatMap fun dir => dir.toList ++ ['/']) ++ (Text.join "/" names).toList := by
  induction dirs with
  | nil => rfl
  | cons dir dirs ih =>
    rw [List.cons_append, toList_join_cons dir (List.append_ne_nil_of_right_ne_nil dirs hnames), ih]
    simp

/-- What a pattern that ends in stars accepts, other than its front, it accepts with any names in
place of the last. -/
theorem accepts_replace {front : String} {dirs : List String} {name : String} {more : List String}
    (hmore : more ≠ []) (hslash : ∀ n ∈ dirs ++ name :: more, '/' ∉ n.toList)
    (hself : Text.join "/" (dirs ++ [name]) ≠ front)
    (h : accepts (front ++ "/**") (Text.join "/" (dirs ++ [name])) = true) :
    accepts (front ++ "/**") (Text.join "/" (dirs ++ more)) = true := by
  rw [accepts, String.toList_append] at h ⊢
  by_cases hstarry : "**/".toList.isPrefixOf (front.toList ++ "/**".toList) = true
  · have hold : ∀ n ∈ dirs ++ [name], '/' ∉ n.toList := fun n hn => hslash n (by
      rcases List.mem_append.mp hn with hn | hn
      · exact List.mem_append_left _ hn
      · exact List.mem_append_right _ (List.mem_singleton.mp hn ▸ List.mem_cons_self))
    have hnew : ∀ n ∈ dirs ++ more, '/' ∉ n.toList := fun n hn => hslash n (by
      rcases List.mem_append.mp hn with hn | hn
      · exact List.mem_append_left _ hn
      · exact List.mem_append_right _ (List.mem_cons_of_mem name hn))
    rw [matchPath_starred, if_pos hstarry, Text.pieces_join (by simp) hold, ← List.map_dropLast,
      List.dropLast_concat] at h
    rw [matchPath_starred, if_pos hstarry, Text.pieces_join (by simp [hmore]) hnew,
      ← List.map_dropLast, List.dropLast_append_of_ne_nil hmore, List.map_append, List.any_append,
      h, Bool.true_or]
  · have htext : (Text.join "/" (dirs ++ [name])).toList =
        (dirs.flatMap fun dir => dir.toList ++ ['/']) ++ name.toList :=
      toList_join_append dirs (List.cons_ne_nil name [])
    rw [← String.toList_inj.ne, htext] at hself
    rw [htext] at h
    rw [toList_join_append dirs hmore]
    exact matchPath_replace (hslash name (by simp)) hself hstarry h _

end Glob

/-! ## Excluded directories -/

namespace Discovery

/-- If a pattern that ends in stars excludes a file, other than its front, it excludes all files with
the same base in and below the directory of that file. -/
theorem not_isBelow_of_excluded {front : String} {t : FileTree} {s : Settings} {roots : List Path}
    (hroots : ∀ root ∈ roots, root.anchor = .root) (hpattern : front ++ "/**" ∈ s.excluded)
    {f file rest : Path} (hf : f ∈ selected t s roots) (hfile : t.isFile file.parts = true)
    (hrest : file.relativeTo? (baseFor t roots f) = some rest) (hself : rest.text ≠ front)
    (haccepts : Glob.accepts (front ++ "/**") rest.text = true) :
    f.isBelow file.parent = false := by
  obtain ⟨⟨root, hroot, hgives⟩, hpasses⟩ := (mem_selected hroots f).mp hf
  obtain ⟨-, -, -, names, hnames, hfound⟩ := exists_base hroot hgives
  have hadmits : s.Admits ⟨.relative, names⟩ := by
    obtain ⟨rest, hrest, hadmits⟩ := hpasses
    rw [hfound] at hrest
    exact Option.some.inj hrest ▸ hadmits
  have hfParts := ((Path.relativeTo?_eq_some_iff _ _ _).mp hfound).2.2
  have hbase : t.isDirectory (baseFor t roots f).parts = true :=
    FileTree.isDirectory_of_isFile_append hnames (hfParts ▸ hgives.1)
  obtain ⟨dirs, rfl, hparent⟩ := exists_name_of_relativeTo? hbase hfile hrest
  rw [Bool.eq_false_iff]
  intro hbelow
  obtain ⟨-, more, hmore⟩ := (Path.isBelow_iff _ _).mp hbelow
  have hne : more ≠ [] := by
    rintro rfl
    have hdirectory := FileTree.isFile_of_isDirectory (isDirectory_parent hfile)
    rw [← List.append_nil file.parent.parts, hmore, hgives.1] at hdirectory
    cases hdirectory
  obtain rfl : names = dirs ++ more := by
    rw [← hmore, hparent, List.append_assoc] at hfParts
    exact (List.append_cancel_left hfParts).symm
  have hslash : ∀ n ∈ dirs ++ file.name :: more, '/' ∉ n.toList := by
    have hparts := ((Path.relativeTo?_eq_some_iff _ _ _).mp hrest).2.2
    intro n hn
    rw [List.append_cons, List.mem_append] at hn
    rcases hn with hn | hn
    · exact FileTree.slash_not_mem_of_isFile hfile (hparts ▸ List.mem_append_right _ hn)
    · exact FileTree.slash_not_mem_of_isFile hgives.1 (hmore ▸ List.mem_append_right _ hn)
  rw [Path.text_relative (List.append_ne_nil_of_right_ne_nil dirs (List.cons_ne_nil _ _))]
    at hself haccepts
  have hexcluded := hadmits.1 _ hpattern
  rw [Path.text_relative hnames, Glob.accepts_replace hne hslash hself haccepts] at hexcluded
  cases hexcluded

end Discovery

open Discovery in
/-- A pattern that ends in stars, whatever stands before them, accepts whole subtrees: with a path
that is not just what stands before the stars it accepts all paths with other names, one or more, in
place of the last name. So a run that leaves out one file on account of such a pattern leaves out
all files in and below the directory where that file stands, as far as their paths are measured from
the same base. In a run over one directory this is so for all files. -/
theorem accepts_subtree (front : String) :
    (∀ dirs name more, more ≠ [] → (∀ n ∈ dirs ++ name :: more, '/' ∉ n.toList) →
      Text.join "/" (dirs ++ [name]) ≠ front →
      Glob.accepts (front ++ "/**") (Text.join "/" (dirs ++ [name])) = true →
      Glob.accepts (front ++ "/**") (Text.join "/" (dirs ++ more)) = true) ∧
    (∀ (t : FileTree) (s : Settings) (cwd : Path) (paths : List Path) (base file rest : Path),
      front ++ "/**" ∈ s.excluded → t.isFile file.parts = true →
      file.relativeTo? base = some rest → rest.text ≠ front →
      Glob.accepts (front ++ "/**") rest.text = true →
      ∀ f ∈ selected t s (rootsOf cwd paths), baseFor t (rootsOf cwd paths) f = base →
        f.isBelow file.parent = false) ∧
    ∀ (t : FileTree) (s : Settings) (cwd dir file rest : Path), front ++ "/**" ∈ s.excluded →
      t.isDirectory (Path.resolve cwd dir).parts = true → t.isFile file.parts = true →
      file.relativeTo? (Path.resolve cwd dir) = some rest → rest.text ≠ front →
      Glob.accepts (front ++ "/**") rest.text = true →
      ∀ f ∈ selected t s (rootsOf cwd [dir]), f.isBelow file.parent = false := by
  refine ⟨fun dirs name more hmore hslash => Glob.accepts_replace hmore hslash, ?_, ?_⟩
  · rintro t s cwd paths _ file rest hpattern hfile hrest hself haccepts f hf rfl
    exact not_isBelow_of_excluded (fun root => anchor_of_mem_rootsOf) hpattern hf hfile hrest hself
      haccepts
  · intro t s cwd dir file rest hpattern hdir hfile hrest hself haccepts f hf
    rw [← baseFor_of_mem_selected rfl hdir hf] at hrest
    exact not_isBelow_of_excluded (List.forall_mem_singleton.mpr rfl) hpattern hf hfile hrest hself
      haccepts

/-- Sources in a directory below another, and one beside that directory. -/
def mixedProject : FileTree where
  entries := [(["a"], .directory), (["a", "x"], .directory), (["a", "x", "b"], .directory),
    (["a", "x", "b", "y.py"], .file []), (["a", "x", "b", "c"], .directory),
    (["a", "x", "b", "c", "z.py"], .file []), (["a", "x", "w.py"], .file [])]
  lawful := ⟨by decide, by decide, by decide, by decide⟩

open Discovery in
/-- With one source in a directory that brackets describe all sources below it are left out, and
only the source beside the directory is looked at. -/
theorem accepts_subtree_mixedProject :
    let s : Settings := { excluded := ["a/**/[!x]/**"] }
    let file := Path.absolute ["a", "x", "b", "y.py"]
    Glob.accepts "a/**/[!x]/**" "a/x/b/y.py" = true ∧
      Glob.accepts "a/**/[!x]/**" "a/x/b/c/z.py" = true ∧
      (∀ f ∈ selected mixedProject s (rootsOf (.absolute []) [⟨.relative, []⟩]),
        f.isBelow file.parent = false) ∧
      selected mixedProject s (rootsOf (.absolute []) [⟨.relative, []⟩]) =
        [.absolute ["a", "x", "w.py"]] := by
  intro s file
  obtain ⟨haccepts, -, hselected⟩ := accepts_subtree "a/**/[!x]"
  have hfile : Glob.accepts "a/**/[!x]/**" "a/x/b/y.py" = true := by decide +kernel
  refine ⟨hfile, ?_, ?_, by decide +kernel⟩
  · exact haccepts ["a", "x", "b"] "y.py" ["c", "z.py"] (List.cons_ne_nil _ _) (by decide +kernel)
      (by decide +kernel) hfile
  · exact hselected mixedProject s (.absolute []) ⟨.relative, []⟩ file
      ⟨.relative, ["a", "x", "b", "y.py"]⟩ List.mem_cons_self (by decide +kernel)
      (by decide +kernel) (by decide +kernel) (by decide +kernel) hfile

end NodeLint
