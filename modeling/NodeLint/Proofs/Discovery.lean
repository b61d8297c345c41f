import NodeLint.Discovery
import NodeLint.Proofs.FileTree
import NodeLint.Proofs.Glob
import NodeLint.Proofs.Sorted

/-!
# Which files a run looks at

A file is looked at if some root gives it and the patterns admit its path below its base. The base
of a file that a root gives is always a directory above the file: it is one of the roots, or the
directory of a root that is the file itself. Neither the full path of a file nor the directory it
stands in is ever a makeshift for a base.

The verdict on a file hangs on the list of all roots, not on the root that gave the file. However
often a file comes up while the roots are searched, it is judged alike.
-/

namespace NodeLint

/-! ## Paths below a base -/

namespace Path

/-- What is left below a base, put behind the base, is the path. -/
theorem relativeTo?_eq_some_iff (p base rest : Path) :
    p.relativeTo? base = some rest ↔
      p.anchor = base.anchor ∧ rest.anchor = .relative ∧ p.parts = base.parts ++ rest.parts := by
  obtain ⟨anchor, parts⟩ := rest
  simp only [relativeTo?, Bool.and_eq_true, decide_eq_true_eq, List.isPrefixOf_iff_prefix]
  constructor
  · intro h
    split at h
    · rename_i hbelow
      obtain ⟨hanchor, names, hparts⟩ := hbelow
      cases h
      refine ⟨hanchor, rfl, ?_⟩
      simp [← hparts]
    · cases h
  · rintro ⟨hanchor, rfl, hparts⟩
    rw [if_pos ⟨hanchor, hparts ▸ List.prefix_append _ _⟩]
    simp [hparts]

/-- A path is known by its anchor and its names. -/
theorem eq_of_parts {p q : Path} (hanchor : p.anchor = q.anchor) (hparts : p.parts = q.parts) :
    p = q := by
  cases p
  cases q
  rw [mk.injEq]
  exact ⟨hanchor, hparts⟩

/-- A path is below a base if something can be put behind the base. -/
theorem isBelow_iff (p base : Path) :
    p.isBelow base = true ↔ p.anchor = base.anchor ∧ base.parts <+: p.parts := by
  simp [isBelow, relativeTo?]

/-- Below the directory it stands in, a path is its name. -/
theorem relativeTo?_parent {p : Path} (hp : p.parts ≠ []) :
    p.relativeTo? p.parent = some ⟨.relative, [p.name]⟩ := by
  have hname : p.name = p.parts.getLast hp := by
    rw [name, List.getLast?_eq_some_getLast hp, Option.getD_some]
  rw [relativeTo?_eq_some_iff, hname]
  exact ⟨rfl, rfl, (List.dropLast_append_getLast hp).symm⟩

/-- The last name below a base is the name of the path. -/
theorem dropLast_append_name {p base : Path} {names : List String} (hnames : names ≠ [])
    (h : p.relativeTo? base = some ⟨.relative, names⟩) : names.dropLast ++ [p.name] = names := by
  obtain ⟨-, -, hparts⟩ := (relativeTo?_eq_some_iff _ _ _).mp h
  rw [name, hparts, List.getLast?_append_of_ne_nil _ hnames, List.getLast?_eq_some_getLast hnames,
    Option.getD_some, List.dropLast_append_getLast]

/-- A name with an ending and something before it. -/
theorem isSourceName_iff (name : String) :
    isSourceName name = true ↔ ∃ stem, stem ≠ [] ∧ name.toList = stem ++ ".py".toList := by
  simp only [isSourceName, Text.endsWith, Bool.and_eq_true, List.isSuffixOf_iff_suffix,
    decide_eq_true_eq]
  constructor
  · rintro ⟨⟨stem, hstem⟩, hlength⟩
    refine ⟨stem, ?_, hstem.symm⟩
    rintro rfl
    rw [← hstem] at hlength
    exact absurd hlength (by decide)
  · rintro ⟨stem, hne, hstem⟩
    refine ⟨⟨stem, hstem.symm⟩, ?_⟩
    have hpos : 0 < stem.length := List.length_pos_iff.mpr hne
    have hending : ".py".toList.length = 3 := by decide
    rw [hstem, List.length_append, hending]
    omega

end Path

/-- Whether settings admit a path: no pattern excludes it, and some pattern includes it. -/
def Settings.Admits (s : Settings) (path : Path) : Prop :=
  (∀ p ∈ s.excluded, Glob.accepts p path.text = false) ∧
    ∃ p ∈ s.included, Glob.accepts p path.text = true

instance (s : Settings) (path : Path) : Decidable (s.Admits path) :=
  inferInstanceAs (Decidable (_ ∧ _))

namespace Discovery

variable (t : FileTree) (s : Settings) (roots : List Path)

/-! ## What roots give -/

/-- Whether a root gives a file: it is the file, under the name of a source, or it is a directory
somewhere above the file, and the name of the file matches `*.py`. -/
def Gives (root file : Path) : Prop :=
  t.isFile file.parts = true ∧
    ((file = root ∧ ∃ stem, stem ≠ [] ∧ file.name.toList = stem ++ ".py".toList) ∨
      (t.isDirectory root.parts = true ∧ file.isBelow root = true ∧
        Glob.accepts "*.py" file.name = true))

/-- Roots are absolute. -/
theorem anchor_of_mem_rootsOf {cwd : Path} {paths : List Path} {root : Path}
    (h : root ∈ rootsOf cwd paths) : root.anchor = .root := by
  obtain ⟨p, -, rfl⟩ := List.mem_map.mp h
  rfl

/-- A file that is a root is taken if its name is that of a source. -/
theorem mem_collect_of_isFile {t : FileTree} {root : Path} (hroot : t.isFile root.parts = true)
    (file : Path) : file ∈ collect t root ↔ file = root ∧ Path.isSourceName file.name = true := by
  rw [collect, if_pos hroot]
  split
  · rename_i hname
    rw [List.mem_singleton]
    exact ⟨fun h => ⟨h, h ▸ hname⟩, And.left⟩
  · rename_i hname
    constructor
    · exact fun h => absurd h List.not_mem_nil
    · rintro ⟨rfl, h⟩
      exact absurd h hname

/-- Below a directory every file is taken whose name has the right ending. -/
theorem mem_collect_of_isDirectory {t : FileTree} {root : Path} (hanchor : root.anchor = .root)
    (hroot : t.isDirectory root.parts = true) (file : Path) :
    file ∈ collect t root ↔
      t.isFile file.parts = true ∧ file.isBelow root = true ∧
        Glob.accepts "*.py" file.name = true := by
  have hfile : ¬ t.isFile root.parts = true := by
    rw [FileTree.isFile, (t.isDirectory_iff _).mp hroot]
    exact Bool.false_ne_true
  rw [collect, if_neg hfile, if_pos hroot, List.mem_map, Path.isBelow_iff, Glob.accepts_sourceName]
  constructor
  · rintro ⟨q, hq, rfl⟩
    rw [List.mem_filter, FileTree.mem_filesBelow] at hq
    obtain ⟨⟨hbelow, hq⟩, hname⟩ := hq
    exact ⟨hq, ⟨hanchor.symm, hbelow⟩, List.isSuffixOf_iff_suffix.mp hname⟩
  · rintro ⟨hq, ⟨hsame, hbelow⟩, hname⟩
    refine ⟨file.parts, ?_, ?_⟩
    · rw [List.mem_filter, FileTree.mem_filesBelow]
      exact ⟨⟨hbelow, hq⟩, List.isSuffixOf_iff_suffix.mpr hname⟩
    · rw [Path.absolute, ← hanchor, ← hsame]

/-- What an absolute root gives is absolute. -/
theorem anchor_of_gives {t : FileTree} {root file : Path} (hanchor : root.anchor = .root)
    (h : Gives t root file) : file.anchor = .root := by
  obtain ⟨-, ⟨rfl, -⟩ | ⟨-, hbelow, -⟩⟩ := h
  · exact hanchor
  · exact ((Path.isBelow_iff _ _).mp hbelow).1.trans hanchor

/-- The files at or below a root are those it gives. -/
theorem mem_collect {t : FileTree} {root : Path} (hanchor : root.anchor = .root) (file : Path) :
    file ∈ collect t root ↔ Gives t root file := by
  by_cases hfile : t.isFile root.parts = true
  · have hdir : ¬ t.isDirectory root.parts = true := by
      obtain ⟨bytes, hbytes⟩ := (t.isFile_iff _).mp hfile
      rw [t.isDirectory_iff, hbytes]
      exact fun h => nomatch h
    rw [mem_collect_of_isFile hfile, Path.isSourceName_iff, Gives]
    constructor
    · rintro ⟨rfl, hname⟩
      exact ⟨hfile, Or.inl ⟨rfl, hname⟩⟩
    · rintro ⟨-, h | h⟩
      · exact h
      · exact absurd h.1 hdir
  · have hself : ¬ (t.isFile file.parts = true ∧ file = root) := by
      rintro ⟨h, rfl⟩
      exact hfile h
    by_cases hdir : t.isDirectory root.parts = true
    · rw [mem_collect_of_isDirectory hanchor hdir, Gives]
      constructor
      · rintro ⟨hq, h⟩
        exact ⟨hq, Or.inr ⟨hdir, h⟩⟩
      · rintro ⟨hq, h | h⟩
        · exact absurd ⟨hq, h.1⟩ hself
        · exact ⟨hq, h.2⟩
    · rw [collect, if_neg hfile, if_neg hdir]
      constructor
      · exact fun h => absurd h List.not_mem_nil
      · rintro ⟨hq, h | h⟩
        · exact absurd ⟨hq, h.1⟩ hself
        · exact absurd h.1 hdir

/-! ## Bases -/

/-- The directory that a root stands for: the root, or where it stands if it is a file. -/
def directoryOf (root : Path) : Path := if t.leadsToFile root then root.parent else root

/-- A directory stands for itself. -/
theorem directoryOf_of_isDirectory {t : FileTree} {root : Path}
    (h : t.isDirectory root.parts = true) : directoryOf t root = root := by
  rw [directoryOf, FileTree.leadsToFile_of_isDirectory h]
  rfl

/-- A file stands for the directory it stands in. -/
theorem directoryOf_of_isFile {t : FileTree} {root : Path} (h : t.isFile root.parts = true) :
    directoryOf t root = root.parent := by
  rw [directoryOf, FileTree.leadsToFile_of_isFile h]
  rfl

/-- A root holds the files that it gives. -/
theorem holds_of_gives {t : FileTree} {root file : Path} (h : Gives t root file) :
    holds t file root = true := by
  obtain ⟨hfile, ⟨rfl, -⟩ | ⟨hdir, hbelow, -⟩⟩ := h
  · simp [holds, FileTree.leadsToFile_of_isFile hfile]
  · simp [holds, FileTree.leadsToFile_of_isDirectory hdir, hbelow]

/-- A file is not the top. -/
theorem parts_ne_nil_of_isFile {t : FileTree} {file : Path} (h : t.isFile file.parts = true) :
    file.parts ≠ [] := by
  intro hnil
  rw [hnil] at h
  cases h

/-- A file stands in a directory. -/
theorem isDirectory_parent {t : FileTree} {file : Path} (h : t.isFile file.parts = true) :
    t.isDirectory file.parent.parts = true := by
  rw [← List.dropLast_append_getLast (parts_ne_nil_of_isFile h)] at h
  exact FileTree.isDirectory_of_isFile_append (List.cons_ne_nil _ _) h

/-- The path of a file below a directory ends in the name of the file. -/
theorem exists_name_of_relativeTo? {t : FileTree} {root file rest : Path}
    (hroot : t.isDirectory root.parts = true) (hfile : t.isFile file.parts = true)
    (hrest : file.relativeTo? root = some rest) :
    ∃ dirs, rest = ⟨.relative, dirs ++ [file.name]⟩ ∧ file.parent.parts = root.parts ++ dirs := by
  obtain ⟨anchor, names⟩ := rest
  obtain ⟨-, rfl, hparts⟩ := (Path.relativeTo?_eq_some_iff _ _ _).mp hrest
  have hne : names ≠ [] := by
    rintro rfl
    rw [hparts, List.append_nil, FileTree.isFile_of_isDirectory hroot] at hfile
    cases hfile
  refine ⟨names.dropLast, by rw [Path.dropLast_append_name hne hrest], ?_⟩
  rw [Path.parent, hparts, List.dropLast_append_of_ne_nil hne]

/-- The directory of a root that holds a file is above the file. -/
theorem relativeTo?_directoryOf {t : FileTree} {root file : Path}
    (hfile : t.isFile file.parts = true) (hholds : holds t file root = true) :
    ∃ names, names ≠ [] ∧ file.relativeTo? (directoryOf t root) = some ⟨.relative, names⟩ := by
  unfold holds at hholds
  unfold directoryOf
  split at hholds
  · rename_i hleads
    obtain rfl : file = root := of_decide_eq_true hholds
    refine ⟨[file.name], List.cons_ne_nil _ _, ?_⟩
    rw [if_pos hleads, Path.relativeTo?_parent (parts_ne_nil_of_isFile hfile)]
  · rename_i hleads
    obtain ⟨hanchor, names, hnames⟩ := (Path.isBelow_iff _ _).mp hholds
    refine ⟨names, ?_, ?_⟩
    · rintro rfl
      rw [← hnames, List.append_nil] at hfile
      exact hleads (FileTree.leadsToFile_of_isFile hfile)
    · rw [if_neg hleads, Path.relativeTo?_eq_some_iff]
      exact ⟨hanchor, rfl, hnames.symm⟩

/-- The base of a file that some root gives comes from a root and is above the file. -/
theorem exists_base {t : FileTree} {roots : List Path} {root file : Path} (hroot : root ∈ roots)
    (h : Gives t root file) :
    ∃ holder, roots.find? (holds t file) = some holder ∧
      baseFor t roots file = directoryOf t holder ∧
      ∃ names, names ≠ [] ∧ file.relativeTo? (baseFor t roots file) = some ⟨.relative, names⟩ := by
  have hsome : (roots.find? (holds t file)).isSome = true :=
    List.find?_isSome.mpr ⟨root, hroot, holds_of_gives h⟩
  obtain ⟨holder, hholder⟩ := Option.isSome_iff_exists.mp hsome
  have hbase : baseFor t roots file = directoryOf t holder := by
    rw [baseFor, hholder, directoryOf]
  refine ⟨holder, hholder, hbase, ?_⟩
  rw [hbase]
  exact relativeTo?_directoryOf h.1 (List.find?_some hholder)

/-! ## The verdict -/

/-- Whether a file passes: its path below its base is admitted. -/
def Passes (file : Path) : Prop :=
  ∃ rest, file.relativeTo? (baseFor t roots file) = some rest ∧ s.Admits rest

/-- For a file below its base the two tests of a run amount to passing. -/
theorem passes_iff {t : FileTree} {s : Settings} {roots : List Path} {file rest : Path}
    (hrest : file.relativeTo? (baseFor t roots file) = some rest) :
    Passes t s roots file ↔
      isExcluded t s roots file = false ∧ isIncluded t s roots file = true := by
  have hshown : shownTo (baseFor t roots file) file = rest.text := by
    rw [shownTo, hrest, Option.getD_some]
  simp [Passes, hrest, Settings.Admits, isExcluded, isIncluded, matchesAny, hshown]

/-- A file that some root gives passes both tests of a run exactly if it passes. -/
theorem tests_of_gives {t : FileTree} {roots : List Path} {root file : Path} (hroot : root ∈ roots)
    (h : Gives t root file) (s : Settings) :
    (!isExcluded t s roots file && isIncluded t s roots file) = true ↔ Passes t s roots file := by
  obtain ⟨-, -, -, names, -, hrest⟩ := exists_base hroot h
  rw [passes_iff hrest, Bool.and_eq_true, Bool.not_eq_true']

variable {t s roots} in
/-- The files of a run are those that a root gives and that pass. -/
theorem mem_selected (hroots : ∀ root ∈ roots, root.anchor = .root) (file : Path) :
    file ∈ selected t s roots ↔ (∃ root ∈ roots, Gives t root file) ∧ Passes t s roots file := by
  have hgiven : file ∈ candidates t roots ↔ ∃ root ∈ roots, Gives t root file := by
    rw [candidates, List.mem_flatMap]
    exact exists_congr fun root => and_congr_right fun hroot => mem_collect (hroots root hroot) file
  rw [selected, List.mem_mergeSort, List.mem_eraseDups, List.mem_filter, hgiven]
  exact and_congr_right fun ⟨root, hroot, h⟩ => tests_of_gives hroot h s

/-- Absolute files, each once and sorted by their names, are strictly in order. -/
theorem pairwise_sorted {files : List Path} (hanchor : ∀ f ∈ files, f.anchor = .root) :
    (files.eraseDups.mergeSort Path.le).Pairwise fun f g => List.lt f.parts g.parts := by
  have hsorted : (files.eraseDups.mergeSort Path.le).Pairwise
      fun f g => Path.le f g = true ∧ f ≠ g := by
    apply Sorted.pairwise_eraseDups
    · intro f g h hfg hgh
      exact decide_eq_true (List.le_trans (of_decide_eq_true hfg) (of_decide_eq_true hgh))
    · intro f g
      rw [Bool.or_eq_true]
      exact (List.le_total f.parts g.parts).imp decide_eq_true decide_eq_true
  refine hsorted.imp_of_mem fun {f g} hf hg ⟨hle, hne⟩ => ?_
  rw [List.mem_mergeSort, List.mem_eraseDups] at hf hg
  refine (List.le_iff_lt_or_eq.mp (of_decide_eq_true hle)).resolve_right fun hparts => hne ?_
  exact Path.eq_of_parts ((hanchor f hf).trans (hanchor g hg).symm) hparts

/-- The files of a run are absolute. -/
theorem anchor_of_mem_selected {t : FileTree} {s : Settings} {roots : List Path}
    (hroots : ∀ root ∈ roots, root.anchor = .root) {file : Path}
    (hfile : file ∈ selected t s roots) : file.anchor = .root := by
  obtain ⟨⟨root, hroot, h⟩, -⟩ := (mem_selected hroots file).mp hfile
  exact anchor_of_gives (hroots root hroot) h

/-- The files of a run are in order, and no file comes twice. -/
theorem pairwise_selected {t : FileTree} {s : Settings} {roots : List Path}
    (hroots : ∀ root ∈ roots, root.anchor = .root) :
    (selected t s roots).Pairwise fun f g => List.lt f.parts g.parts := by
  apply pairwise_sorted
  intro f hf
  have hmem : f ∈ selected t s roots := by
    rw [selected, List.mem_mergeSort, List.mem_eraseDups]
    exact hf
  exact anchor_of_mem_selected hroots hmem

/-! ## Searching one root after the other -/

/-- Judge one more file: what is excluded stays out, and what is included is taken once. -/
def judge (found : List Path) (file : Path) : List Path :=
  if isExcluded t s roots file then found
  else if isIncluded t s roots file then found.insert file
  else found

/-- Judge the files of one more root. -/
def search (found : List Path) (root : Path) : List Path :=
  (collect t root).foldl (judge t s roots) found

/-- Judging a file adds at most this file, and only if it passes both tests. -/
theorem mem_judge (found : List Path) (file f : Path) :
    f ∈ judge t s roots found file ↔
      f ∈ found ∨ f = file ∧ (!isExcluded t s roots f && isIncluded t s roots f) = true := by
  unfold judge
  split
  · rename_i hexcluded
    constructor
    · exact Or.inl
    · rintro (h | ⟨rfl, h⟩)
      · exact h
      · simp [hexcluded] at h
  · rename_i hexcluded
    split
    · rename_i hincluded
      rw [List.mem_insert_iff, or_comm]
      refine or_congr_right ⟨fun h => ⟨h, ?_⟩, And.left⟩
      simp [h, hexcluded, hincluded]
    · rename_i hincluded
      constructor
      · exact Or.inl
      · rintro (h | ⟨rfl, h⟩)
        · exact h
        · simp [hincluded] at h

/-- Searching a root adds the files of the root that pass both tests. -/
theorem mem_search (found : List Path) (root f : Path) :
    f ∈ search t s roots found root ↔
      f ∈ found ∨
        f ∈ collect t root ∧ (!isExcluded t s roots f && isIncluded t s roots f) = true := by
  unfold search
  induction collect t root generalizing found with
  | nil => simp
  | cons file files ih =>
    rw [List.foldl_cons, ih, mem_judge, List.mem_cons, or_and_right, or_assoc]

variable {t s roots} in
/-- At every stage of the search, what was found are the files that pass among those that the roots
searched so far give. -/
theorem mem_foldl_search (hroots : ∀ root ∈ roots, root.anchor = .root) {seen : List Path}
    (hseen : ∀ root ∈ seen, root ∈ roots) (f : Path) :
    f ∈ seen.foldl (search t s roots) [] ↔
      (∃ root ∈ seen, Gives t root f) ∧ Passes t s roots f := by
  have hrun (found : List Path) : f ∈ seen.foldl (search t s roots) found ↔
      f ∈ found ∨ (∃ root ∈ seen, Gives t root f) ∧ Passes t s roots f := by
    induction seen generalizing found with
    | nil => simp
    | cons root seen ih =>
      have hroot := hseen root List.mem_cons_self
      have hstep : f ∈ search t s roots found root ↔
          f ∈ found ∨ Gives t root f ∧ Passes t s roots f := by
        rw [mem_search, mem_collect (hroots root hroot)]
        exact or_congr_right (and_congr_right fun h => tests_of_gives hroot h s)
      rw [List.foldl_cons, ih (fun r hr => hseen r (List.mem_cons_of_mem _ hr)), hstep, or_assoc]
      simp only [List.mem_cons, exists_eq_or_imp]
      rw [or_and_right]
  rw [hrun]
  simp

/-! ## The files of a run -/

/-- The files of a run are strictly in order, and they are those that some root gives and that pass.
A file that a root gives has a base among the directories of the roots, and this base is a directory
above the file. While the roots are searched one after the other, a file is found from the first
root on that gives it, if it passes, and never if it does not. -/
theorem selected_characterization (cwd : Path) (paths : List Path) :
    let roots := rootsOf cwd paths
    (selected t s roots).Pairwise (fun f g => List.lt f.parts g.parts) ∧
    (∀ f, f ∈ selected t s roots ↔ (∃ root ∈ roots, Gives t root f) ∧ Passes t s roots f) ∧
    (∀ f, ∀ root ∈ roots, Gives t root f →
      (∃ holder ∈ roots, roots.find? (holds t f) = some holder) ∧
      ∃ names, names ≠ [] ∧ f.relativeTo? (baseFor t roots f) = some ⟨.relative, names⟩ ∧
        f.parts = (baseFor t roots f).parts ++ names ∧
        t.isDirectory (baseFor t roots f).parts = true) ∧
    ∀ seen, seen <+: roots → ∀ f, f ∈ seen.foldl (search t s roots) [] ↔
      (∃ root ∈ seen, Gives t root f) ∧ Passes t s roots f := by
  intro roots
  have hroots : ∀ root ∈ roots, root.anchor = .root := fun root => anchor_of_mem_rootsOf
  refine ⟨pairwise_selected hroots, mem_selected hroots, fun f root hroot h => ?_,
    fun seen hseen => mem_foldl_search hroots fun root hr => hseen.subset hr⟩
  obtain ⟨holder, hholder, -, names, hnames, hrest⟩ := exists_base hroot h
  refine ⟨⟨holder, List.mem_of_find?_eq_some hholder, hholder⟩, names, hnames, hrest, ?_⟩
  have hparts : f.parts = (baseFor t roots f).parts ++ names :=
    ((Path.relativeTo?_eq_some_iff _ _ _).mp hrest).2.2
  obtain ⟨bytes, hbytes⟩ := (t.isFile_iff _).mp h.1
  exact ⟨hparts, (t.isDirectory_iff _).mpr (FileTree.find?_of_append hnames (hparts ▸ hbytes))⟩

/-- A source in a directory that is excluded by default, if patterns are measured from right above
it. -/
def nestedBuild : FileTree where
  entries := [(["sub"], .directory), (["sub", "build"], .directory),
    (["sub", "build", "a.py"], .file [])]
  lawful := ⟨by decide, by decide, by decide, by decide⟩

/-- The source is given by two roots, measured from the first, and found from neither. -/
theorem selected_nestedBuild :
    let roots := rootsOf (.absolute []) [⟨.relative, ["sub"]⟩, ⟨.relative, []⟩]
    let file := Path.absolute ["sub", "build", "a.py"]
    (∀ root ∈ roots, Gives nestedBuild root file) ∧ file ∉ selected nestedBuild {} roots ∧
      (∀ seen, seen <+: roots → file ∉ seen.foldl (search nestedBuild {} roots) []) ∧
      ∃ names, names ≠ [] ∧ file.parts = (baseFor nestedBuild roots file).parts ++ names := by
  intro roots file
  obtain ⟨-, hmem, hbase, hsearch⟩ :=
    selected_characterization nestedBuild {} (.absolute []) [⟨.relative, ["sub"]⟩, ⟨.relative, []⟩]
  have hgives : ∀ root ∈ roots, Gives nestedBuild root file := by
    have hbelow : ∀ root ∈ roots, nestedBuild.isDirectory root.parts = true ∧
        file.isBelow root = true ∧ Glob.accepts "*.py" file.name = true := by decide +kernel
    exact fun root hroot => ⟨by decide +kernel, Or.inr (hbelow root hroot)⟩
  have hroot : Path.absolute ["sub"] ∈ roots := by decide +kernel
  have hout : file ∉ selected nestedBuild {} roots := by decide +kernel
  have hfails : ¬ Passes nestedBuild {} roots file := fun h =>
    hout ((hmem file).mpr ⟨⟨_, hroot, hgives _ hroot⟩, h⟩)
  obtain ⟨-, names, hnames, -, hparts, -⟩ := hbase file _ hroot (hgives _ hroot)
  exact ⟨hgives, hout, fun seen hseen h => hfails ((hsearch seen hseen file).mp h).2,
    names, hnames, hparts⟩

end Discovery
end NodeLint
