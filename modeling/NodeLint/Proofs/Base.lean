import NodeLint.Run
import NodeLint.Proofs.Discovery

/-!
# Where patterns are measured from

The base of a file is the first root that holds it, and a file that is a root of its own is measured
from the directory it stands in. So the same file can have different bases in two runs, and then
some patterns tell the runs apart: below a higher base the path of the file is longer. Two runs that
give a file agree on it under all patterns exactly if they agree on its base.

Two cases of this are looked at. The order of the roots counts only where roots lie inside each
other. A file that is named and a file that is found through a directory are the same to all
patterns only if the file stands right in that directory.
-/

namespace NodeLint

/-! ## The length of a path -/

/-- More names in front make a longer text. -/
theorem Text.length_join_lt (front names : List String) (hfront : front ≠ [])
    (hnames : names ≠ []) :
    (join "/" names).toList.length < (join "/" (front ++ names)).toList.length := by
  have hcons (name : String) {rest : List String} (hrest : rest ≠ []) :
      (join "/" rest).toList.length < (join "/" (name :: rest)).toList.length := by
    have hjoin : join "/" (name :: rest) = name ++ "/" ++ join "/" rest := by
      cases rest with
      | nil => exact absurd rfl hrest
      | cons n ns => rfl
    rw [hjoin, String.toList_append, String.toList_append, List.length_append, List.length_append]
    have hslash : "/".toList.length = 1 := by decide
    omega
  induction front with
  | nil => exact absurd rfl hfront
  | cons name front ih =>
    have hrest : front ++ names ≠ [] := List.append_ne_nil_of_right_ne_nil front hnames
    have hlast := hcons name hrest
    by_cases hnil : front = []
    · subst hnil
      exact hlast
    · exact Nat.lt_trans (ih hnil) hlast

/-- A path with names and no anchor is shown as its names. -/
theorem Path.text_relative {names : List String} (hnames : names ≠ []) :
    (⟨.relative, names⟩ : Path).text = Text.join "/" names := by
  cases names with
  | nil => exact absurd rfl hnames
  | cons name names => exact String.empty_append

/-- Below two different bases a path has different lengths. -/
theorem Path.length_text_ne {p base base' : Path} {names names' : List String}
    (hnames : names ≠ []) (hnames' : names' ≠ [])
    (h : p.relativeTo? base = some ⟨.relative, names⟩)
    (h' : p.relativeTo? base' = some ⟨.relative, names'⟩) (hne : base ≠ base') :
    (⟨.relative, names⟩ : Path).text.toList.length ≠
      (⟨.relative, names'⟩ : Path).text.toList.length := by
  obtain ⟨hanchor, -, hparts⟩ := (relativeTo?_eq_some_iff _ _ _).mp h
  obtain ⟨hanchor', -, hparts'⟩ := (relativeTo?_eq_some_iff _ _ _).mp h'
  have hbases : base.parts ≠ base'.parts := fun heq =>
    hne (eq_of_parts (hanchor.symm.trans hanchor') heq)
  rw [text_relative hnames, text_relative hnames']
  -- One base is above the other, so that one path has names in front that the other lacks.
  rcases List.append_eq_append_iff.mp (hparts.symm.trans hparts') with
    ⟨front, hbase, rfl⟩ | ⟨front, hbase, rfl⟩
  · have hfront : front ≠ [] := by
      rintro rfl
      exact hbases (by simp [hbase])
    exact Nat.ne_of_gt (Text.length_join_lt front names' hfront hnames')
  · have hfront : front ≠ [] := by
      rintro rfl
      exact hbases (by simp [hbase])
    exact Nat.ne_of_lt (Text.length_join_lt front names hfront hnames)

/-- Settings that admit the paths of one length. -/
def Settings.ofLength (n : Nat) : Settings := { included := [Glob.ones n], excluded := [] }

theorem Settings.admits_ofLength (n : Nat) (path : Path) :
    (Settings.ofLength n).Admits path ↔ path.text.toList.length = n := by
  simp [Admits, ofLength, Glob.accepts_ones]

namespace Discovery

variable {t : FileTree} {roots roots' : List Path} {root root' file : Path}

/-! ## Two runs over one file -/

/-- Two runs that give a file agree on it under all settings exactly if they agree on its base. -/
theorem passes_iff_base_eq (hroot : root ∈ roots) (h : Gives t root file) (hroot' : root' ∈ roots')
    (h' : Gives t root' file) :
    (∀ s, Passes t s roots file ↔ Passes t s roots' file) ↔
      baseFor t roots file = baseFor t roots' file := by
  constructor
  · intro hsame
    obtain ⟨-, -, -, names, hnames, hrest⟩ := exists_base hroot h
    obtain ⟨-, -, -, names', hnames', hrest'⟩ := exists_base hroot' h'
    by_contra hne
    have hlength := Path.length_text_ne hnames hnames' hrest hrest' hne
    obtain ⟨rest, hrest'', hadmits⟩ :=
      (hsame (.ofLength _)).mp ⟨_, hrest, (Settings.admits_ofLength _ _).mpr rfl⟩
    obtain rfl : _ = rest := Option.some.inj (hrest'.symm.trans hrest'')
    exact hlength ((Settings.admits_ofLength _ _).mp hadmits).symm
  · intro hbase s
    rw [Passes, Passes, hbase]

/-! ## The order of the roots -/

/-- Whether no root lies inside another: a root below one that is no file is the same root again, or
a file right in it. -/
def Apart (t : FileTree) (roots : List Path) : Prop :=
  ∀ root ∈ roots, ∀ root' ∈ roots, t.leadsToFile root = false → root'.isBelow root = true →
    root' = root ∨ (t.leadsToFile root' = true ∧ root'.parent = root)

/-- What is below a root then stands for the same directory. -/
theorem Apart.directoryOf_of_isBelow (hapart : Apart t roots) (hroot : root ∈ roots)
    (hroot' : root' ∈ roots) (hleads : ¬ t.leadsToFile root = true)
    (hbelow : root'.isBelow root = true) : directoryOf t root' = directoryOf t root := by
  rcases hapart root hroot root' hroot' (Bool.eq_false_iff.mpr hleads) hbelow with
    rfl | ⟨hfile, hparent⟩
  · rfl
  · rw [directoryOf, if_pos hfile, directoryOf, if_neg hleads, hparent]

/-- Roots that hold one file stand for one directory, if no root lies inside another. -/
theorem Apart.directoryOf_eq (hapart : Apart t roots) (hroot : root ∈ roots)
    (hroot' : root' ∈ roots)
    (h : holds t file root = true) (h' : holds t file root' = true) :
    directoryOf t root = directoryOf t root' := by
  unfold holds at h h'
  split at h
  · obtain rfl : file = root := of_decide_eq_true h
    split at h'
    · obtain rfl : file = root' := of_decide_eq_true h'
      rfl
    · rename_i hleads
      exact hapart.directoryOf_of_isBelow hroot' hroot hleads h'
  · rename_i hleads
    split at h'
    · obtain rfl : file = root' := of_decide_eq_true h'
      exact (hapart.directoryOf_of_isBelow hroot hroot' hleads h).symm
    · rename_i hleads'
      obtain ⟨hanchor, hbelow⟩ := (Path.isBelow_iff _ _).mp h
      obtain ⟨hanchor', hbelow'⟩ := (Path.isBelow_iff _ _).mp h'
      have hanchors := hanchor.symm.trans hanchor'
      rcases List.prefix_or_prefix_of_prefix hbelow hbelow' with hinside | hinside
      · exact (hapart.directoryOf_of_isBelow hroot hroot' hleads
          ((Path.isBelow_iff _ _).mpr ⟨hanchors.symm, hinside⟩)).symm
      · exact hapart.directoryOf_of_isBelow hroot' hroot hleads'
          ((Path.isBelow_iff _ _).mpr ⟨hanchors, hinside⟩)

/-- If no root lies inside another, the base of a file does not depend on the order of the roots. -/
theorem Apart.baseFor_eq (hapart : Apart t roots) (hperm : roots.Perm roots') (hroot : root ∈ roots)
    (h : Gives t root file) : baseFor t roots file = baseFor t roots' file := by
  obtain ⟨holder, hholder, hbase, -⟩ := exists_base hroot h
  obtain ⟨holder', hholder', hbase', -⟩ := exists_base (hperm.mem_iff.mp hroot) h
  rw [hbase, hbase']
  exact hapart.directoryOf_eq (List.mem_of_find?_eq_some hholder)
    (hperm.mem_iff.mpr (List.mem_of_find?_eq_some hholder')) (List.find?_some hholder)
    (List.find?_some hholder')

/-- Two runs over the same roots have the same files exactly if they agree on each given file. -/
theorem selected_eq_iff (hroots : ∀ root ∈ roots, root.anchor = .root) (hperm : roots.Perm roots')
    (s : Settings) :
    selected t s roots = selected t s roots' ↔
      ∀ root ∈ roots, ∀ f, Gives t root f → (Passes t s roots f ↔ Passes t s roots' f) := by
  have hroots' : ∀ root ∈ roots', root.anchor = .root := fun root hroot =>
    hroots root (hperm.mem_iff.mpr hroot)
  have hgiven (f : Path) : (∃ root ∈ roots', Gives t root f) ↔ ∃ root ∈ roots, Gives t root f := by
    simp only [hperm.mem_iff]
  constructor
  · intro hsame root hroot f h
    have hmem := mem_selected (t := t) (s := s) hroots f
    rw [hsame, mem_selected hroots', hgiven] at hmem
    have hany : ∃ root ∈ roots, Gives t root f := ⟨root, hroot, h⟩
    simpa only [hany, true_and] using hmem.symm
  · intro hsame
    refine Sorted.eq_of_mem_iff (fun f g => List.lt_asymm) (pairwise_selected hroots)
      (pairwise_selected hroots') fun f => ?_
    rw [mem_selected hroots, mem_selected hroots', hgiven]
    exact and_congr_right fun ⟨root, hroot, h⟩ => hsame root hroot f h

/-- Runs over the same files have the same result. -/
theorem result_congr {cwd : Path} {paths paths' : List Path} {s : Settings}
    (h : selected t s (rootsOf cwd paths) = selected t s (rootsOf cwd paths')) :
    (Run.ofPaths t cwd s paths).result = (Run.ofPaths t cwd s paths').result := by
  simp only [Run.ofPaths, Run.result, h]

/-- Paths in another order give the same files under all settings exactly if each given file keeps
its base; under one setting, if each keeps its verdict. With the files the whole result is the same.
Where no root lies inside another, the order does not count at all. -/
theorem selected_perm_iff (t : FileTree) (cwd : Path) (paths paths' : List Path)
    (hperm : paths.Perm paths') :
    let roots := rootsOf cwd paths
    let roots' := rootsOf cwd paths'
    ((∀ s, selected t s roots = selected t s roots') ↔
      ∀ root ∈ roots, ∀ f, Gives t root f → baseFor t roots f = baseFor t roots' f) ∧
    (∀ s, selected t s roots = selected t s roots' ↔
      ∀ root ∈ roots, ∀ f, Gives t root f → (Passes t s roots f ↔ Passes t s roots' f)) ∧
    (∀ s, selected t s roots = selected t s roots' →
      (Run.ofPaths t cwd s paths).result = (Run.ofPaths t cwd s paths').result) ∧
    (Apart t roots → ∀ s, selected t s roots = selected t s roots') := by
  intro roots roots'
  have hroots : ∀ root ∈ roots, root.anchor = .root := fun root => anchor_of_mem_rootsOf
  have hperm : roots.Perm roots' := hperm.map _
  have hall : (∀ s, selected t s roots = selected t s roots') ↔
      ∀ root ∈ roots, ∀ f, Gives t root f → baseFor t roots f = baseFor t roots' f := by
    constructor
    · intro hsame root hroot f h
      rw [← passes_iff_base_eq hroot h (hperm.mem_iff.mp hroot) h]
      exact fun s => (selected_eq_iff hroots hperm s).mp (hsame s) root hroot f h
    · intro hsame s
      refine (selected_eq_iff hroots hperm s).mpr fun root hroot f h => ?_
      rw [Passes, Passes, hsame root hroot f h]
  refine ⟨hall, selected_eq_iff hroots hperm, fun s => result_congr, fun hapart => ?_⟩
  exact hall.mpr fun root hroot f h => hapart.baseFor_eq hperm hroot h

instance (t : FileTree) (roots : List Path) : Decidable (Apart t roots) :=
  inferInstanceAs (Decidable (∀ _ ∈ _, ∀ _ ∈ _, _ → _ → _))

/-- A directory and a file right in it may be given in any order. -/
theorem selected_neighbours :
    let build : Path := ⟨.relative, ["sub", "build"]⟩
    let source : Path := ⟨.relative, ["sub", "build", "a.py"]⟩
    [build, source].Perm [source, build] ∧
    ∀ s, selected nestedBuild s (rootsOf (.absolute []) [build, source]) =
      selected nestedBuild s (rootsOf (.absolute []) [source, build]) := by
  intro build source
  have hperm : [build, source].Perm [source, build] := List.Perm.swap source build []
  exact ⟨hperm, (selected_perm_iff nestedBuild (.absolute []) _ _ hperm).2.2.2 (by decide +kernel)⟩

/-- A directory and one inside it may not: whichever comes first decides whether the source is
excluded. -/
theorem selected_swapped :
    let top : Path := ⟨.relative, []⟩
    let sub : Path := ⟨.relative, ["sub"]⟩
    [top, sub].Perm [sub, top] ∧
    selected nestedBuild {} (rootsOf (.absolute []) [top, sub]) =
      [.absolute ["sub", "build", "a.py"]] ∧
    selected nestedBuild {} (rootsOf (.absolute []) [sub, top]) = [] :=
  ⟨List.Perm.swap _ _ [], by decide +kernel⟩

/-! ## Files that are named and files that are found -/

/-- With one root the base is the directory that the root stands for. -/
theorem baseFor_singleton (h : Gives t root file) : baseFor t [root] file = directoryOf t root := by
  obtain ⟨holder, hholder, hbase, -⟩ := exists_base List.mem_cons_self h
  rw [hbase, List.mem_singleton.mp (List.mem_of_find?_eq_some hholder)]

/-- With one root a file that the root gives is taken if it passes. -/
theorem mem_selected_singleton (hanchor : root.anchor = .root) (h : Gives t root file)
    (s : Settings) : file ∈ selected t s [root] ↔ Passes t s [root] file := by
  have hroots : ∀ r ∈ [root], r.anchor = .root := by simp [hanchor]
  simp [mem_selected hroots, h]

/-- With one root the verdict is on the path below the directory that the root stands for. -/
theorem passes_singleton (h : Gives t root file) {rest : Path}
    (hrest : file.relativeTo? (directoryOf t root) = some rest) (s : Settings) :
    Passes t s [root] file ↔ s.Admits rest := by
  simp [Passes, baseFor_singleton h, hrest]

/-- The base of every file of a run over one directory is that directory. -/
theorem baseFor_of_mem_selected {s : Settings} (hanchor : root.anchor = .root)
    (hroot : t.isDirectory root.parts = true) (h : file ∈ selected t s [root]) :
    baseFor t [root] file = root := by
  obtain ⟨⟨r, hr, hgives⟩, -⟩ := (mem_selected (List.forall_mem_singleton.mpr hanchor) file).mp h
  obtain rfl := List.mem_singleton.mp hr
  rw [baseFor_singleton hgives, directoryOf_of_isDirectory hroot]

/-- By default, a name that is excluded on its own is excluded in any directory, and the name of a
source is included. -/
theorem admits_name_of_default {s : Settings} (hincluded : s.included = defaultIncludes)
    (hexcluded : s.excluded = defaultExcludes) {names : List String} {name : String}
    (hslash : ∀ n ∈ names ++ [name], '/' ∉ n.toList) (hname : ".py".toList <:+ name.toList)
    (h : s.Admits ⟨.relative, names ++ [name]⟩) : s.Admits ⟨.relative, [name]⟩ := by
  have hplain : '/' ∉ name.toList := hslash name (List.mem_append_right names List.mem_cons_self)
  have hpieces : Text.pieces '/' name.toList = [name.toList] := Text.pieces_of_not_mem hplain
  have htext : (⟨.relative, [name]⟩ : Path).text = name := Path.text_relative (List.cons_ne_nil _ _)
  -- A single name stands in no directory and below no front; only its start can exclude it.
  have hdirectory (middle : List Char) :
      (Text.pieces '/' name.toList).dropLast.any (Glob.wildcard middle) = false := by
    rw [hpieces]
    rfl
  have hfront (front : List Char) (hne : ¬ ".py".toList <:+ front) :
      (decide (name.toList = front) || (Glob.below? front name.toList).isSome) = false := by
    have hdiffers : name.toList ≠ front := fun heq => hne (heq ▸ hname)
    simp [hdiffers, Glob.below?_eq_none hplain]
  have hdot : Glob.matchesTail ".*".toList name.toList = false := by
    have hne : names ++ [name] ≠ [] :=
      List.append_ne_nil_of_right_ne_nil names (List.cons_ne_nil _ _)
    have hlong : Glob.matchesTail ".*".toList (Text.join "/" (names ++ [name])).toList = false := by
      rw [← Path.text_relative hne]
      exact h.1 "**/.*" (by rw [hexcluded]; decide)
    rw [Bool.eq_false_iff, ne_eq, Glob.matchesTail_join hne hslash] at hlong
    rw [Glob.matchesTail_name hplain, Bool.eq_false_iff]
    exact fun hshort =>
      hlong ⟨[name], List.cons_ne_nil _ _, List.suffix_append names [name], hshort⟩
  rw [Settings.Admits, htext, hincluded, hexcluded]
  constructor
  · simp only [defaultExcludes, List.forall_mem_cons]
    exact ⟨hdirectory "__pycache__".toList, hdot, hdirectory ".git".toList,
      hdirectory ".venv".toList, hdirectory "venv".toList, hdirectory "env".toList,
      hfront "build".toList (by decide), hfront "dist".toList (by decide),
      hfront "*.egg-info".toList (by decide), by simp⟩
  · refine ⟨"**/*.py", List.mem_cons_self, ?_⟩
    have htail : Glob.accepts "**/*.py" name = Glob.matchesTail "*.py".toList name.toList := rfl
    rw [htail, Glob.matchesTail_name hplain]
    exact (Glob.accepts_sourceName name).mpr hname

/-- A file that is found through a directory is judged by its path below the directory, and a file
that is named by its name alone. All settings judge it alike exactly if it stands right in the
directory. By default a file that is found is also taken when it is named. -/
theorem named_iff_found (t : FileTree) (cwd dir file : Path)
    (hdir : t.isDirectory (Path.resolve cwd dir).parts = true)
    (hfile : t.isFile (Path.resolve cwd file).parts = true)
    (hbelow : (Path.resolve cwd file).isBelow (Path.resolve cwd dir) = true)
    (hname : ∃ stem, stem ≠ [] ∧ (Path.resolve cwd file).name.toList = stem ++ ".py".toList) :
    let d := Path.resolve cwd dir
    let f := Path.resolve cwd file
    (∃ rest, f.relativeTo? d = some rest ∧
      ∀ s, f ∈ selected t s (rootsOf cwd [dir]) ↔ s.Admits rest) ∧
    (∀ s, f ∈ selected t s (rootsOf cwd [file]) ↔ s.Admits ⟨.relative, [f.name]⟩) ∧
    ((∀ s, f ∈ selected t s (rootsOf cwd [dir]) ↔ f ∈ selected t s (rootsOf cwd [file])) ↔
      f.parent = d) ∧
    ∀ s, s.included = defaultIncludes → s.excluded = defaultExcludes →
      f ∈ selected t s (rootsOf cwd [dir]) → f ∈ selected t s (rootsOf cwd [file]) := by
  intro d f
  have hending : ".py".toList <:+ f.name.toList := by
    obtain ⟨stem, -, hstem⟩ := hname
    exact ⟨stem, hstem.symm⟩
  have hfound : Gives t d f :=
    ⟨hfile, Or.inr ⟨hdir, hbelow, (Glob.accepts_sourceName _).mpr hending⟩⟩
  have hnamed : Gives t f f := ⟨hfile, Or.inl ⟨rfl, hname⟩⟩
  have hd : directoryOf t d = d := directoryOf_of_isDirectory hdir
  have hf : directoryOf t f = f.parent := directoryOf_of_isFile hfile
  obtain ⟨names, hnames, hrest⟩ := relativeTo?_directoryOf hfile (holds_of_gives hfound)
  have hfoundIff (s : Settings) : f ∈ selected t s [d] ↔ s.Admits ⟨.relative, names⟩ :=
    (mem_selected_singleton rfl hfound s).trans (passes_singleton hfound hrest s)
  have hnamedIff (s : Settings) : f ∈ selected t s [f] ↔ s.Admits ⟨.relative, [f.name]⟩ :=
    (mem_selected_singleton rfl hnamed s).trans (passes_singleton hnamed
      (hf ▸ Path.relativeTo?_parent (parts_ne_nil_of_isFile hfile)) s)
  refine ⟨⟨_, hd ▸ hrest, hfoundIff⟩, hnamedIff, ?_, fun s hincluded hexcluded h => ?_⟩
  · have hbases := passes_iff_base_eq (List.mem_singleton_self d) hfound
      (List.mem_singleton_self f) hnamed
    rw [baseFor_singleton hfound, baseFor_singleton hnamed, hd, hf] at hbases
    rw [eq_comm (a := f.parent), ← hbases]
    exact forall_congr' fun s =>
      iff_congr (mem_selected_singleton rfl hfound s) (mem_selected_singleton rfl hnamed s)
  · have hlast := Path.dropLast_append_name hnames hrest
    have hparts := ((Path.relativeTo?_eq_some_iff _ _ _).mp hrest).2.2
    have hslash : ∀ n ∈ names.dropLast ++ [f.name], '/' ∉ n.toList := by
      intro n hn
      rw [hlast] at hn
      obtain ⟨bytes, hbytes⟩ := (t.isFile_iff _).mp hfile
      exact (FileTree.isName_of_find? hbytes (hparts ▸ List.mem_append_right _ hn)).2.2.2
    refine (hnamedIff s).mpr (admits_name_of_default hincluded hexcluded hslash hending ?_)
    rw [hlast]
    exact (hfoundIff s).mp h

/-- A file right in a directory is the same to all settings, named or found. -/
theorem named_iff_found_neighbours :
    let build : Path := ⟨.relative, ["sub", "build"]⟩
    let source : Path := ⟨.relative, ["sub", "build", "a.py"]⟩
    let file := Path.absolute ["sub", "build", "a.py"]
    nestedBuild.isDirectory ["sub", "build"] = true ∧ nestedBuild.isFile file.parts = true ∧
    ∀ s, file ∈ selected nestedBuild s (rootsOf (.absolute []) [build]) ↔
      file ∈ selected nestedBuild s (rootsOf (.absolute []) [source]) := by
  intro build source file
  refine ⟨by decide +kernel, by decide +kernel, ?_⟩
  have hsource : Path.resolve (.absolute []) source = file := by decide +kernel
  have hall := (named_iff_found nestedBuild (.absolute []) build source (by decide +kernel)
    (by decide +kernel) (by decide +kernel) ⟨['a'], by decide, by decide +kernel⟩).2.2.1
  rw [hsource] at hall
  exact hall.mpr (by decide +kernel)

/-- Further down a source can be taken by its name and left out when it is found. -/
theorem named_not_found :
    let source : Path := ⟨.relative, ["sub", "build", "a.py"]⟩
    let file := Path.absolute ["sub", "build", "a.py"]
    nestedBuild.isDirectory ["sub"] = true ∧ nestedBuild.isFile file.parts = true ∧
    Path.isSourceName file.name = true ∧
    file ∈ selected nestedBuild {} (rootsOf (.absolute []) [source]) ∧
    file ∉ selected nestedBuild {} (rootsOf (.absolute []) [⟨.relative, ["sub"]⟩]) := by
  decide +kernel

end Discovery
end NodeLint
