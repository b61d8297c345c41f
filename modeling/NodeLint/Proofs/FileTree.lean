import Mathlib.Data.List.Induction
import NodeLint.FileTree

/-!
# Places of a file tree

Whatever stands below a place of a tree stands in directories all the way down, and the names on the
way can be followed: walking from the top to a place that exists ends at that place. A path to a
file of the tree is therefore read as what the tree lists there.
-/

namespace NodeLint.FileTree

variable (t : FileTree)

/-- Below the top, what exists stands in a directory. -/
theorem find?_dropLast {t : FileTree} {place : Place} {e : Entry} (hplace : place ≠ [])
    (h : t.find? place = some e) : t.find? place.dropLast = some .directory := by
  by_cases htop : place.dropLast = []
  · rw [htop]
    rfl
  · have hlisted := (t.find?_eq_some_iff hplace e).mp h
    exact (t.find?_eq_some_iff htop .directory).mpr (t.lawful.closed _ hlisted htop)

/-- Everything above a place that exists is a directory. -/
theorem find?_of_append {t : FileTree} {place : Place} {names : List String} (hnames : names ≠ [])
    {e : Entry} (h : t.find? (place ++ names) = some e) : t.find? place = some .directory := by
  induction names using List.reverseRecOn generalizing e with
  | nil => exact absurd rfl hnames
  | append_singleton names name ih =>
    have hparent : t.find? (place ++ names) = some .directory := by
      have hne : place ++ (names ++ [name]) ≠ [] := by simp
      have hdrop := find?_dropLast hne h
      rwa [← List.append_assoc, List.dropLast_concat] at hdrop
    by_cases htop : names = []
    · rwa [htop, List.append_nil] at hparent
    · exact ih htop hparent

/-- The names of a place that exists can be followed. -/
theorem isName_of_find? {t : FileTree} {place : Place} {e : Entry} (h : t.find? place = some e)
    {name : String} (hname : name ∈ place) : IsName name := by
  have hne : place ≠ [] := List.ne_nil_of_mem hname
  exact t.lawful.proper _ ((t.find?_eq_some_iff hne e).mp h) name hname

/-- One step further to what exists. -/
theorem step_of_find? {t : FileTree} {place : Place} {name : String} {e : Entry}
    (h : t.find? (place ++ [name]) = some e) : t.step place name = .ok (place ++ [name]) := by
  have hdir : t.find? place = some .directory := find?_of_append (List.cons_ne_nil name []) h
  obtain ⟨hempty, hdot, hdots, -⟩ :=
    isName_of_find? h (List.mem_append_right place List.mem_cons_self)
  simp [step, hdir, h, hempty, hdot, hdots]

/-- Following the names of what exists leads there. -/
theorem walk_of_find? {t : FileTree} (place : Place) {names : List String} {e : Entry}
    (h : t.find? (place ++ names) = some e) : t.walk place names = .ok (place ++ names) := by
  induction names generalizing place with
  | nil =>
    rw [List.append_nil]
    rfl
  | cons name names ih =>
    have hsplit : place ++ name :: names = place ++ [name] ++ names := by simp
    rw [hsplit] at h ⊢
    obtain ⟨e', hnext⟩ : ∃ e', t.find? (place ++ [name]) = some e' := by
      by_cases hnames : names = []
      · rw [hnames, List.append_nil] at h
        exact ⟨e, h⟩
      · exact ⟨.directory, find?_of_append hnames h⟩
    have hstep : t.walk place (name :: names) = t.walk (place ++ [name]) names := by
      rw [walk, List.foldlM_cons, step_of_find? hnext]
      rfl
    rw [hstep, ih (place ++ [name]) h]

/-- There is a file where the tree has the bytes of one. -/
theorem isFile_iff (place : Place) :
    t.isFile place = true ↔ ∃ bytes, t.find? place = some (.file bytes) := by
  unfold isFile
  split
  · simp_all
  · rename_i hother
    constructor
    · exact fun h => Bool.noConfusion h
    · rintro ⟨bytes, h⟩
      exact absurd h (hother bytes)

/-- There is a directory where the tree has one. -/
theorem isDirectory_iff (place : Place) :
    t.isDirectory place = true ↔ t.find? place = some .directory := by
  simp [isDirectory]

/-- Where there is a directory, there is no file. -/
theorem isFile_of_isDirectory {t : FileTree} {place : Place} (h : t.isDirectory place = true) :
    t.isFile place = false := by
  rw [isFile, (t.isDirectory_iff _).mp h]

/-- A file stands below directories. -/
theorem isDirectory_of_isFile_append {t : FileTree} {place : Place} {names : List String}
    (hnames : names ≠ []) (h : t.isFile (place ++ names) = true) : t.isDirectory place = true := by
  obtain ⟨bytes, hbytes⟩ := (t.isFile_iff _).mp h
  exact (t.isDirectory_iff _).mpr (find?_of_append hnames hbytes)

/-- No name on the way to a file has a slash. -/
theorem slash_not_mem_of_isFile {t : FileTree} {place : Place} (h : t.isFile place = true)
    {name : String} (hname : name ∈ place) : '/' ∉ name.toList := by
  obtain ⟨bytes, hbytes⟩ := (t.isFile_iff _).mp h
  exact (isName_of_find? hbytes hname).2.2.2

/-- A path to a place that exists leads to a file exactly if there is one. -/
theorem leadsToFile_of_find? {t : FileTree} {p : Path} {e : Entry}
    (h : t.find? p.parts = some e) : t.leadsToFile p = t.isFile p.parts := by
  have hparts : ((Path.absolute []).below p).parts = p.parts := by
    unfold Path.below Path.absolute
    split <;> rfl
  have hlocate : t.locate (Path.absolute []) p = .ok p.parts := by
    rw [locate, hparts]
    exact walk_of_find? [] h
  rw [leadsToFile, hlocate]

/-- A path to a file leads to a file. -/
theorem leadsToFile_of_isFile {t : FileTree} {p : Path} (h : t.isFile p.parts = true) :
    t.leadsToFile p = true := by
  obtain ⟨bytes, hbytes⟩ := (t.isFile_iff _).mp h
  rw [leadsToFile_of_find? hbytes, h]

/-- A path to a directory does not. -/
theorem leadsToFile_of_isDirectory {t : FileTree} {p : Path} (h : t.isDirectory p.parts = true) :
    t.leadsToFile p = false := by
  have hfind := (t.isDirectory_iff _).mp h
  rw [leadsToFile_of_find? hfind, isFile, hfind]

/-- An absolute path to a file is read as the file, whatever the working directory is. -/
theorem read_of_find? {t : FileTree} {p : Path} {bytes : List UInt8}
    (hanchor : p.anchor ≠ .relative)
    (h : t.find? p.parts = some (.file bytes)) (cwd : Path) : t.read cwd p = .ok bytes := by
  have hlocate : t.locate cwd p = .ok p.parts := by
    rw [locate, Path.below, if_neg hanchor]
    exact walk_of_find? [] h
  simp only [read, hlocate, bind, Except.bind, h]
  rfl

/-- The files at or below a place. -/
theorem mem_filesBelow (place q : Place) :
    q ∈ t.filesBelow place ↔ place <+: q ∧ t.isFile q = true := by
  have hlisted (e : Entry) (he : e ≠ .directory) : t.find? q = some e ↔ (q, e) ∈ t.entries := by
    by_cases hq : q = []
    · subst hq
      constructor
      · intro h
        exact absurd (Option.some.inj h).symm he
      · intro h
        exact absurd rfl (t.lawful.named _ h)
    · exact t.find?_eq_some_iff hq e
  simp only [filesBelow, List.mem_map, List.mem_filter, Prod.exists, exists_and_right,
    exists_eq_right, Bool.and_eq_true, List.isPrefixOf_iff_prefix, decide_eq_true_eq]
  rw [isFile_iff]
  constructor
  · rintro ⟨e, hmem, hbelow, he⟩
    refine ⟨hbelow, ?_⟩
    cases e with
    | file bytes => exact ⟨bytes, (hlisted _ he).mpr hmem⟩
    | directory => exact absurd rfl he
  · rintro ⟨hbelow, bytes, h⟩
    have he : Entry.file bytes ≠ .directory := Entry.noConfusion
    exact ⟨.file bytes, (hlisted _ he).mp h, hbelow, he⟩

end NodeLint.FileTree
