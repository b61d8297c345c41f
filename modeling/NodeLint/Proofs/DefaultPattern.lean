import NodeLint.Proofs.DirectoryPattern

/-!
# What is left out by default

The default patterns are of three shapes: a directory anywhere, a directory at the top, and names
that begin with a dot. For each shape it is said here, in terms of the names of a path, what it
accepts. Together they say which sources a run over a directory looks at by default.
-/

namespace NodeLint

namespace Glob

/-! ## The shapes of the default patterns -/

/-- A dot and a star accept the texts that begin with a dot. -/
theorem wildcard_dotted_iff (text : List Char) :
    wildcard ".*".toList text = true ↔ ".".toList <+: text := by
  have hpieces : wildcard ".*".toList text = matchPieces [.char '.', .run] text := rfl
  rw [hpieces]
  cases text with
  | nil => simp [matchPieces]
  | cons c cs =>
    simp only [matchPieces, Bool.and_eq_true, decide_eq_true_eq, someTail_iff]
    constructor
    · rintro ⟨rfl, -⟩
      exact ⟨cs, rfl⟩
    · rintro ⟨rest, h⟩
      exact ⟨(List.cons.inj h).1, [], List.nil_suffix, rfl⟩

/-- A path begins with a dot if its first name does. -/
theorem dot_prefix_join_iff (name : String) (rest : List String) :
    ".".toList <+: (Text.join "/" (name :: rest)).toList ↔ ".".toList <+: name.toList := by
  by_cases hrest : rest = []
  · subst hrest
    rfl
  · rw [toList_join_cons name hrest]
    constructor
    · rintro ⟨behind, h⟩
      cases hname : name.toList with
      | nil =>
        rw [hname] at h
        exact absurd (List.cons.inj h).1 (by decide)
      | cons c cs =>
        rw [hname] at h
        exact ⟨cs, by rw [← (List.cons.inj h).1]; rfl⟩
    · intro h
      exact h.trans (List.prefix_append _ _)

section
variable {names : List String} (hnames : names ≠ []) (hslash : ∀ name ∈ names, '/' ∉ name.toList)
include hnames hslash

/-- The pattern for a directory anywhere accepts the paths with such a directory. -/
theorem accepts_directory_iff {dir : String} (hdir : IsLiteral dir) :
    accepts ("**/" ++ dir ++ "/**") (Text.join "/" names) = true ↔ dir ∈ names.dropLast := by
  rw [accepts, String.toList_append, String.toList_append, matchPath_between,
    Text.pieces_join hnames hslash, ← List.map_dropLast, List.any_map, List.any_eq_true]
  have hmatch (name : String) :
      (wildcard dir.toList ∘ String.toList) name = true ↔ name = dir := by
    rw [Function.comp_apply, (isPlain_of_forall hdir.ne).wildcard_iff, String.toList_inj]
  simp only [hmatch, exists_eq_right]

/-- The pattern for a directory at the top accepts the paths that begin with its name. -/
theorem accepts_top_iff {top : String} (htop : '/' ∉ top.toList)
    (hstars : ¬ "**".toList <:+: top.toList) :
    accepts (top ++ "/**") (Text.join "/" names) = true ↔ names.head? = some top := by
  rw [accepts, String.toList_append, matchPath_front htop hstars, Bool.or_eq_true,
    decide_eq_true_eq]
  obtain ⟨first, rest, rfl⟩ := List.exists_cons_of_ne_nil hnames
  have hfirst : '/' ∉ first.toList := hslash first List.mem_cons_self
  rw [List.head?_cons, Option.some.injEq]
  by_cases hrest : rest = []
  · subst hrest
    rw [Text.join, below?_eq_none hfirst, String.toList_inj]
    simp
  · have hpath : first.toList ++ '/' :: (Text.join "/" rest).toList ≠ top.toList := by
      intro h
      exact htop (h ▸ List.mem_append_right _ List.mem_cons_self)
    rw [toList_join_cons first hrest, isSome_below?_iff htop hfirst, String.toList_inj]
    simp only [hpath, false_or]

/-- The pattern for names that begin with a dot accepts the paths with such a name. -/
theorem accepts_dotted_iff :
    accepts "**/.*" (Text.join "/" names) = true ↔ ∃ name ∈ names, ".".toList <+: name.toList := by
  have hpath : accepts "**/.*" (Text.join "/" names) =
      matchesTail ".*".toList (Text.join "/" names).toList := rfl
  rw [hpath, matchesTail_join hnames hslash]
  simp only [wildcard_dotted_iff]
  constructor
  · rintro ⟨rest, hne, hsuffix, h⟩
    obtain ⟨name, rest, rfl⟩ := List.exists_cons_of_ne_nil hne
    exact ⟨name, hsuffix.subset List.mem_cons_self, (dot_prefix_join_iff name rest).mp h⟩
  · rintro ⟨name, hname, h⟩
    obtain ⟨above, rest, rfl⟩ := List.append_of_mem hname
    exact ⟨name :: rest, List.cons_ne_nil _ _, List.suffix_append _ _,
      (dot_prefix_join_iff name rest).mpr h⟩

/-- The pattern for sources accepts a path whose last name is that of a source. -/
theorem accepts_source_of_getLast {name : String} (hlast : [name] <:+ names)
    (hname : ".py".toList <:+ name.toList) : accepts "**/*.py" (Text.join "/" names) = true := by
  have hpath : accepts "**/*.py" (Text.join "/" names) =
      matchesTail "*.py".toList (Text.join "/" names).toList := rfl
  rw [hpath, matchesTail_join hnames hslash]
  exact ⟨[name], List.cons_ne_nil _ _, hlast, (accepts_sourceName name).mpr hname⟩

end

end Glob

/-! ## The default settings -/

/-- By default the path of a source is admitted exactly if none of its names begins with a dot, none
of its directories is one of those that are left out anywhere, and its first directory is not one of
those that are left out at the top. -/
theorem Settings.admits_default_iff {s : Settings} (hincluded : s.included = defaultIncludes)
    (hexcluded : s.excluded = defaultExcludes) {dirs : List String} {name : String}
    (hslash : ∀ n ∈ dirs ++ [name], '/' ∉ n.toList) (hname : ".py".toList <:+ name.toList)
    (hmetadata : ∀ n ∈ dirs ++ [name], ¬ ".egg-info".toList <:+ n.toList) :
    s.Admits ⟨.relative, dirs ++ [name]⟩ ↔
      (∀ n ∈ dirs ++ [name], ¬ ".".toList <+: n.toList) ∧
      (∀ dir ∈ dirs, dir ≠ "__pycache__" ∧ dir ≠ "venv" ∧ dir ≠ "env") ∧
      dirs.head? ≠ some "build" ∧ dirs.head? ≠ some "dist" := by
  have hne : dirs ++ [name] ≠ [] := List.append_ne_nil_of_right_ne_nil dirs (List.cons_ne_nil _ _)
  have hdirectory {dir : String} (hdir : Glob.IsLiteral dir) :
      Glob.accepts ("**/" ++ dir ++ "/**") (Text.join "/" (dirs ++ [name])) = false ↔
        dir ∉ dirs := by
    rw [Bool.eq_false_iff, ne_eq, Glob.accepts_directory_iff hne hslash hdir, List.dropLast_concat]
  have htop {top : String} (hslash' : '/' ∉ top.toList) (hstars : ¬ "**".toList <:+: top.toList)
      (hending : ¬ ".py".toList <:+ top.toList) :
      Glob.accepts (top ++ "/**") (Text.join "/" (dirs ++ [name])) = false ↔
        dirs.head? ≠ some top := by
    rw [Bool.eq_false_iff, ne_eq, Glob.accepts_top_iff hne hslash hslash' hstars]
    cases dirs with
    | nil =>
      have hdiffers : name ≠ top := fun h => hending (h ▸ hname)
      simp [hdiffers]
    | cons dir dirs => rfl
  have hdotted : Glob.accepts "**/.*" (Text.join "/" (dirs ++ [name])) = false ↔
      ∀ n ∈ dirs ++ [name], ¬ ".".toList <+: n.toList := by
    rw [Bool.eq_false_iff, ne_eq, Glob.accepts_dotted_iff hne hslash]
    simp only [not_exists, not_and]
  have hpatterns : defaultExcludes = ["**/" ++ "__pycache__" ++ "/**", "**/.*",
      "**/" ++ ".git" ++ "/**", "**/" ++ ".venv" ++ "/**", "**/" ++ "venv" ++ "/**",
      "**/" ++ "env" ++ "/**", "build" ++ "/**", "dist" ++ "/**", "*.egg-info" ++ "/**"] := rfl
  have hsource : ∃ p ∈ defaultIncludes, Glob.accepts p (Text.join "/" (dirs ++ [name])) = true :=
    ⟨"**/*.py", List.mem_cons_self,
      Glob.accepts_source_of_getLast hne hslash (List.suffix_append dirs [name]) hname⟩
  rw [Admits, Path.text_relative hne, hincluded, hexcluded, hpatterns, and_iff_left hsource]
  simp only [List.forall_mem_cons, hdotted]
  rw [hdirectory (by decide +kernel), hdirectory (by decide +kernel),
    hdirectory (by decide +kernel), hdirectory (by decide +kernel),
    hdirectory (by decide +kernel), htop (by decide) (by decide +kernel) (by decide),
    htop (by decide) (by decide +kernel) (by decide),
    htop (by decide) (by decide +kernel) (by decide)]
  constructor
  · rintro ⟨hcache, hdots, -, -, hvenv, henv, hbuild, hdist, -⟩
    refine ⟨hdots, fun dir hdir => ⟨?_, ?_, ?_⟩, hbuild, hdist⟩
    · exact fun h => hcache (h ▸ hdir)
    · exact fun h => hvenv (h ▸ hdir)
    · exact fun h => henv (h ▸ hdir)
  · rintro ⟨hdots, hdirs, hbuild, hdist⟩
    -- Directories whose names begin with a dot are left out by their names already.
    have hhidden {dir : String} (hdot : ".".toList <+: dir.toList) : dir ∉ dirs := fun hdir =>
      hdots dir (List.mem_append_left _ hdir) hdot
    have hegg : dirs.head? ≠ some "*.egg-info" := fun h =>
      hmetadata _ (List.mem_append_left _ (List.mem_of_head? h)) (by decide)
    exact ⟨fun h => (hdirs _ h).1 rfl, hdots, hhidden (by decide), hhidden (by decide),
      fun h => (hdirs _ h).2.1 rfl, fun h => (hdirs _ h).2.2 rfl, hbuild, hdist, hegg, by simp⟩

namespace Discovery

/-- By default a run over a directory takes a source below it exactly if no name of its path below
the directory begins with a dot, none of the directories on the way is `__pycache__`, `venv` or
`env`, and the first of them is neither `build` nor `dist`. Only what is below directories for the
metadata of packages is not spoken of. -/
theorem selected_by_default (t : FileTree) (s : Settings) (hincluded : s.included = defaultIncludes)
    (hexcluded : s.excluded = defaultExcludes) (cwd dir file : Path) (names : List String)
    (hdir : t.isDirectory (Path.resolve cwd dir).parts = true)
    (hfile : t.isFile file.parts = true)
    (hnames : file.relativeTo? (Path.resolve cwd dir) = some ⟨.relative, names⟩)
    (hname : ".py".toList <:+ file.name.toList)
    (hmetadata : ∀ name ∈ names, ¬ ".egg-info".toList <:+ name.toList) :
    file ∈ selected t s (rootsOf cwd [dir]) ↔
      (∀ name ∈ names, ¬ ".".toList <+: name.toList) ∧
      (∀ name ∈ names.dropLast, name ≠ "__pycache__" ∧ name ≠ "venv" ∧ name ≠ "env") ∧
      names.dropLast.head? ≠ some "build" ∧ names.dropLast.head? ≠ some "dist" := by
  have hbelow : file.isBelow (Path.resolve cwd dir) = true := by rw [Path.isBelow, hnames]; rfl
  have hgives : Gives t (Path.resolve cwd dir) file :=
    ⟨hfile, Or.inr ⟨hdir, hbelow, (Glob.accepts_sourceName _).mpr hname⟩⟩
  obtain ⟨dirs, hrest, -⟩ := exists_name_of_relativeTo? hdir hfile hnames
  obtain ⟨-, rfl⟩ := Path.mk.inj hrest
  have hslash : ∀ n ∈ dirs ++ [file.name], '/' ∉ n.toList := by
    intro n hn
    have hparts := ((Path.relativeTo?_eq_some_iff _ _ _).mp hnames).2.2
    exact FileTree.slash_not_mem_of_isFile hfile (hparts ▸ List.mem_append_right _ hn)
  have hselected : file ∈ selected t s (rootsOf cwd [dir]) ↔
      s.Admits ⟨.relative, dirs ++ [file.name]⟩ := by
    rw [← directoryOf_of_isDirectory hdir] at hnames
    exact (mem_selected_singleton rfl hgives s).trans (passes_singleton hgives hnames s)
  rw [hselected, Settings.admits_default_iff hincluded hexcluded hslash hname hmetadata,
    List.dropLast_concat]

/-- Sources below directories of many kinds. -/
def crowdedProject : FileTree where
  entries := [(["build"], .directory), (["build", "a.py"], .file []), (["src"], .directory),
    (["src", ".a.py"], .file []), (["src", "build"], .directory),
    (["src", "build", "a.py"], .file []), (["src", "env.py"], .file []),
    (["src", "venv"], .directory), (["src", "venv", "lib"], .directory),
    (["src", "venv", "lib", "a.py"], .file [])]
  lawful := ⟨by decide, by decide, by decide, by decide⟩

/-- A directory `build` counts at the top only, and `venv` at any depth. -/
theorem selected_by_default_crowdedProject :
    let top : Path := ⟨.relative, []⟩
    let nested := Path.absolute ["src", "build", "a.py"]
    let deep := Path.absolute ["src", "venv", "lib", "a.py"]
    nested ∈ selected crowdedProject {} (rootsOf (.absolute []) [top]) ∧
      deep ∉ selected crowdedProject {} (rootsOf (.absolute []) [top]) := by
  intro top nested deep
  have hnested := selected_by_default crowdedProject {} rfl rfl (.absolute []) top nested
    ["src", "build", "a.py"] (by decide +kernel) (by decide +kernel) (by decide +kernel)
    (by decide +kernel) (by decide +kernel)
  have hdeep := selected_by_default crowdedProject {} rfl rfl (.absolute []) top deep
    ["src", "venv", "lib", "a.py"] (by decide +kernel) (by decide +kernel) (by decide +kernel)
    (by decide +kernel) (by decide +kernel)
  refine ⟨hnested.mpr (by decide +kernel), fun h => ?_⟩
  exact absurd ((hdeep.mp h).2.1 "venv" (by decide)) (by decide)

end Discovery
end NodeLint
