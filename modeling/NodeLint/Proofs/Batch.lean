import NodeLint.Proofs.Run

/-!
# Runs over batches of files

A run over named files takes each file or leaves it by the name of that file alone: its base is the
directory it stands in, whatever other files are named. A list of files can therefore be given to
several runs, in any batches and in any order, and a file may be in more than one of them. Together
the runs look at the files that one run over all paths looks at, they report the same about each of
them, and the highest of their exit codes is the exit code of the one run.

Paths to directories are left out: the base of a file that is found through a directory hangs on the
other paths.
-/

namespace NodeLint

namespace Discovery

variable {t : FileTree} {cwd : Path} {s : Settings} {roots : List Path} {file : Path}

/-- Whether a path names a file. -/
def NamesFile (t : FileTree) (cwd p : Path) : Prop := t.isFile (Path.resolve cwd p).parts = true

instance (t : FileTree) (cwd p : Path) : Decidable (NamesFile t cwd p) :=
  inferInstanceAs (Decidable (_ = _))

/-- The files of several runs, each once and in order. -/
def union (runs : List (List Path)) : List Path := runs.flatten.eraseDups.mergeSort Path.le

theorem mem_union (runs : List (List Path)) : file ∈ union runs ↔ ∃ files ∈ runs, file ∈ files := by
  rw [union, List.mem_mergeSort, List.mem_eraseDups, List.mem_flatten]

/-! ## Files that are named -/

/-- A root that is a file gives itself, if it has the name of a source. -/
theorem gives_of_isFile {root : Path} (hroot : t.isFile root.parts = true) :
    Gives t root file ↔ file = root ∧ Path.isSourceName file.name = true := by
  rw [Path.isSourceName_iff, Gives]
  constructor
  · intro hgives
    rcases hgives.2 with hself | ⟨hdir, -⟩
    · exact hself
    · rw [FileTree.isFile, (t.isDirectory_iff _).mp hdir] at hroot
      cases hroot
  · intro hfile
    exact ⟨hfile.1 ▸ hroot, Or.inl hfile⟩

/-- Among roots that are files, a file is measured from the directory it stands in. -/
theorem baseFor_of_isFile (hroots : ∀ root ∈ roots, t.isFile root.parts = true)
    (hfile : file ∈ roots) (hname : Path.isSourceName file.name = true) :
    baseFor t roots file = file.parent := by
  have hgives : Gives t file file := (gives_of_isFile (hroots file hfile)).mpr ⟨rfl, hname⟩
  obtain ⟨holder, hholder, hbase, -⟩ := exists_base hfile hgives
  have hmem := hroots holder (List.mem_of_find?_eq_some hholder)
  have hself : file = holder := by
    have hholds := List.find?_some hholder
    simpa [holds, FileTree.leadsToFile_of_isFile hmem] using hholds
  rw [hbase, directoryOf_of_isFile hmem, hself]

/-- A run over files takes those that have the name of a source and are admitted by that name. -/
theorem mem_selected_of_isFile (hanchor : ∀ root ∈ roots, root.anchor = .root)
    (hroots : ∀ root ∈ roots, t.isFile root.parts = true) :
    file ∈ selected t s roots ↔
      file ∈ roots ∧ Path.isSourceName file.name = true ∧ s.Admits ⟨.relative, [file.name]⟩ := by
  rw [mem_selected hanchor]
  have hgiven : (∃ root ∈ roots, Gives t root file) ↔
      file ∈ roots ∧ Path.isSourceName file.name = true := by
    constructor
    · intro ⟨root, hroot, hgives⟩
      obtain ⟨rfl, hname⟩ := (gives_of_isFile (hroots root hroot)).mp hgives
      exact ⟨hroot, hname⟩
    · intro ⟨hfile, hname⟩
      exact ⟨file, hfile, (gives_of_isFile (hroots file hfile)).mpr ⟨rfl, hname⟩⟩
  rw [hgiven, and_assoc]
  refine and_congr_right fun hfile => and_congr_right fun hname => ?_
  have hrest := Path.relativeTo?_parent (parts_ne_nil_of_isFile (hroots file hfile))
  simp [Passes, baseFor_of_isFile hroots hfile hname, hrest]

/-! ## Batches -/

variable {paths : List Path} {batches : List (List Path)}

/-- The files of a run over named files are those of the runs over its batches. -/
theorem mem_selected_batches (hfiles : ∀ p ∈ paths, NamesFile t cwd p)
    (hbatches : ∀ p, p ∈ batches.flatten ↔ p ∈ paths) :
    file ∈ selected t s (rootsOf cwd paths) ↔
      ∃ batch ∈ batches, file ∈ selected t s (rootsOf cwd batch) := by
  have hmem (some : List Path) (hsome : ∀ p ∈ some, p ∈ paths) :
      file ∈ selected t s (rootsOf cwd some) ↔ (∃ p ∈ some, Path.resolve cwd p = file) ∧
        Path.isSourceName file.name = true ∧ s.Admits ⟨.relative, [file.name]⟩ := by
    rw [mem_selected_of_isFile fun root => anchor_of_mem_rootsOf, rootsOf, List.mem_map]
    intro root hroot
    obtain ⟨p, hp, rfl⟩ := List.mem_map.mp hroot
    exact hfiles p (hsome p hp)
  have hbatch : ∀ batch ∈ batches, ∀ p ∈ batch, p ∈ paths := fun batch hbatch p hp =>
    (hbatches p).mp (List.mem_flatten.mpr ⟨batch, hbatch, hp⟩)
  rw [hmem paths fun p hp => hp]
  constructor
  · intro ⟨⟨p, hp, hself⟩, htaken⟩
    obtain ⟨batch, hin, hp⟩ := List.mem_flatten.mp ((hbatches p).mpr hp)
    exact ⟨batch, hin, (hmem batch (hbatch batch hin)).mpr ⟨⟨p, hp, hself⟩, htaken⟩⟩
  · intro ⟨batch, hin, hfile⟩
    obtain ⟨⟨p, hp, hself⟩, htaken⟩ := (hmem batch (hbatch batch hin)).mp hfile
    exact ⟨⟨p, hbatch batch hin p hp, hself⟩, htaken⟩

/-- The files of a run over named files are the union of those of the runs over its batches. -/
theorem selected_eq_union (hfiles : ∀ p ∈ paths, NamesFile t cwd p)
    (hbatches : ∀ p, p ∈ batches.flatten ↔ p ∈ paths) :
    selected t s (rootsOf cwd paths) =
      union (batches.map fun batch => selected t s (rootsOf cwd batch)) := by
  refine Sorted.eq_of_mem_iff (fun f g => List.lt_asymm)
    (pairwise_selected fun root => anchor_of_mem_rootsOf) (pairwise_sorted fun f hf => ?_)
    fun f => ?_
  · simp only [List.mem_flatten, List.mem_map, exists_exists_and_eq_and] at hf
    obtain ⟨batch, -, hf⟩ := hf
    exact anchor_of_mem_selected (fun root => anchor_of_mem_rootsOf) hf
  · rw [mem_selected_batches hfiles hbatches, mem_union]
    simp

end Discovery

namespace Run

open Discovery

/-- What a run over paths reports about a file. -/
def reportOn (t : FileTree) (cwd : Path) (s : Settings) (paths : List Path) (file : Path) :
    List Diagnostic :=
  (ofPaths t cwd s paths).result.collection.items.filter fun d => d.file = file

/-- The exit code of a run over paths. -/
def exitCodeOf (t : FileTree) (cwd : Path) (s : Settings) (paths : List Path) : Nat :=
  (ofPaths t cwd s paths).result.exitCode

/-- A run over paths is what the runs over batches are together: it looks at their files, each once
and in order, it reports what they report about each file and nothing else, and its exit code is the
highest of theirs. -/
structure Joins (t : FileTree) (cwd : Path) (s : Settings) (paths : List Path)
    (batches : List (List Path)) : Prop where
  files : selected t s (rootsOf cwd paths) =
    union (batches.map fun batch => selected t s (rootsOf cwd batch))
  reports : ∀ batch ∈ batches, ∀ file ∈ selected t s (rootsOf cwd batch),
    reportOn t cwd s paths file = reportOn t cwd s batch file
  items : (ofPaths t cwd s paths).result.collection.items =
    (selected t s (rootsOf cwd paths)).flatMap (reportOn t cwd s paths)
  exitCode : exitCodeOf t cwd s paths = (batches.map (exitCodeOf t cwd s)).foldr max 0

variable {t : FileTree} {cwd : Path} {s : Settings} {paths : List Path}
  {batches : List (List Path)} {file : Path}

/-- What a run reports about one of its files is the result of the file. -/
theorem reportOn_eq (hfile : file ∈ selected t s (rootsOf cwd paths)) :
    reportOn t cwd s paths file = s.lintBytes file (bytesAt t file) := by
  obtain ⟨bytes, hbytes, -⟩ := exists_bytes hfile
  rw [reportOn, filter_items_ofPaths hfile hbytes, bytesAt_eq hbytes]

/-- A run fails exactly if the result of one of its files has an error. -/
theorem exitCodeOf_eq (t : FileTree) (cwd : Path) (s : Settings) (paths : List Path) :
    exitCodeOf t cwd s paths = if ∃ file ∈ selected t s (rootsOf cwd paths),
      ∃ d ∈ s.lintBytes file (bytesAt t file), d.severity = .error then 1 else 0 := by
  rw [exitCodeOf, exitCode_result, items_ofPaths]
  refine if_congr ?_ rfl rfl
  simp only [List.mem_flatMap]
  constructor
  · intro ⟨d, ⟨file, hfile, hd⟩, herror⟩
    exact ⟨file, hfile, d, hd, herror⟩
  · intro ⟨file, hfile, d, hd, herror⟩
    exact ⟨d, ⟨file, hfile, hd⟩, herror⟩

/-- The highest of codes that tell failure from success tells whether one of them is failure. -/
theorem foldr_max_ite {α : Type} (fails : α → Prop) [DecidablePred fails] (as : List α) :
    (as.map fun a => if fails a then 1 else 0).foldr max 0 = if ∃ a ∈ as, fails a then 1 else 0 := by
  induction as with
  | nil => simp
  | cons a as ih =>
    rw [List.map_cons, List.foldr_cons, ih]
    by_cases ha : fails a <;> by_cases has : ∃ b ∈ as, fails b <;> simp [ha, has]

/-- A run over named files joins the runs over its batches. -/
theorem joins_batches (hfiles : ∀ p ∈ paths, NamesFile t cwd p)
    (hbatches : ∀ p, p ∈ batches.flatten ↔ p ∈ paths) : Joins t cwd s paths batches where
  files := selected_eq_union hfiles hbatches
  reports := by
    intro batch hbatch file hfile
    have hall : file ∈ selected t s (rootsOf cwd paths) :=
      (mem_selected_batches hfiles hbatches).mpr ⟨batch, hbatch, hfile⟩
    rw [reportOn_eq hall, reportOn_eq hfile]
  items := by
    rw [items_ofPaths]
    exact List.flatMap_congr fun file hfile => (reportOn_eq hfile).symm
  exitCode := by
    have hcodes : exitCodeOf t cwd s = fun batch =>
        if ∃ file ∈ selected t s (rootsOf cwd batch),
          ∃ d ∈ s.lintBytes file (bytesAt t file), d.severity = .error then 1 else 0 :=
      funext (exitCodeOf_eq t cwd s)
    rw [hcodes, foldr_max_ite]
    refine if_congr ?_ rfl rfl
    simp only [mem_selected_batches hfiles hbatches]
    constructor
    · intro ⟨file, ⟨batch, hbatch, hfile⟩, herror⟩
      exact ⟨batch, hbatch, file, hfile, herror⟩
    · intro ⟨batch, hbatch, file, hfile, herror⟩
      exact ⟨file, ⟨batch, hbatch, hfile⟩, herror⟩

/-- A run over two lists of named files joins the runs over each of them, and its exit code is the
higher of theirs. It also joins the runs over any other batches that have the same files in them, in
whatever order and however often. -/
theorem joins_append (t : FileTree) (cwd : Path) (s : Settings) (first second : List Path)
    (hfiles : ∀ p ∈ first ++ second, NamesFile t cwd p) :
    Joins t cwd s (first ++ second) [first, second] ∧
    exitCodeOf t cwd s (first ++ second) =
      max (exitCodeOf t cwd s first) (exitCodeOf t cwd s second) ∧
    ∀ batches : List (List Path), (∀ p, p ∈ batches.flatten ↔ p ∈ first ++ second) →
      Joins t cwd s (first ++ second) batches := by
  have hboth : Joins t cwd s (first ++ second) [first, second] :=
    joins_batches hfiles fun p => by simp
  refine ⟨hboth, ?_, fun batches hbatches => joins_batches hfiles hbatches⟩
  rw [hboth.exitCode]
  simp

/-- A file that cannot be decoded, and an empty one further down. -/
def brokenAndEmpty : FileTree where
  entries := [(["a.py"], .file [0xFF]), (["build"], .directory), (["build", "b.py"], .file [])]
  lawful := ⟨by decide, by decide, by decide, by decide⟩

/-- The broken file fails its run and the run over both files, also with other batches. -/
theorem joins_brokenAndEmpty :
    let broken : Path := ⟨.relative, ["a.py"]⟩
    let other : Path := ⟨.relative, ["build", "b.py"]⟩
    let root : Path := .absolute []
    (∀ p ∈ [broken] ++ [other], NamesFile brokenAndEmpty root p) ∧
    exitCodeOf brokenAndEmpty root {} [broken] = 1 ∧
    exitCodeOf brokenAndEmpty root {} [other] = 0 ∧
    exitCodeOf brokenAndEmpty root {} ([broken] ++ [other]) = 1 ∧
    Joins brokenAndEmpty root {} ([broken] ++ [other]) [[other], [other, broken]] := by
  intro broken other root
  have hfiles : ∀ p ∈ [broken] ++ [other], NamesFile brokenAndEmpty root p := by decide +kernel
  have hbroken : exitCodeOf brokenAndEmpty root {} [broken] = 1 := by decide +kernel
  have hother : exitCodeOf brokenAndEmpty root {} [other] = 0 := by decide +kernel
  obtain ⟨-, hexit, hjoins⟩ := joins_append brokenAndEmpty root {} [broken] [other] hfiles
  refine ⟨hfiles, hbroken, hother, ?_, hjoins [[other], [other, broken]] fun p => ?_⟩
  · rw [hexit, hbroken, hother]
    rfl
  · simp only [List.flatten_cons, List.flatten_nil, List.mem_append, List.mem_cons]
    grind

end Run
end NodeLint
