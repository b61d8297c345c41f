import Mathlib.Data.List.Basic
import NodeLint.Report
import NodeLint.Proofs.Check
import NodeLint.Proofs.Discovery
import NodeLint.Proofs.Governance
import NodeLint.Proofs.Utf8

/-!
# What a run reports

A run reports file after file, and what it reports about a file is the file's own result: it hangs
on the path of the file, its bytes and the settings, and on no other file. Bytes that are not a
program give one error, whatever the settings are and whatever stands in the file. Everything else
is found by rules that are on or breaks a limit on pragmas, so that no diagnostic is without a
severity that counts. The exit code and the summary are read off the counts, which are those of the
diagnostics.
-/

namespace NodeLint

open Source

/-! ## The result of one file -/

/-- Whether bytes are a program: they are the encoding of a text, and the text, with line ends
unified, has no null character and can be parsed. -/
def IsProgram (bytes : List UInt8) : Prop :=
  ∃ text stmts, bytes = text.flatMap String.utf8EncodeChar ∧ '\x00' ∉ Text.unifyNewlines text ∧
    parse (Text.unifyNewlines text) = .ok stmts

/-- Bytes are a program exactly if a file with these bytes has a tree, wherever it is. -/
theorem SourceFile.isProgram_iff (path : Path) (bytes : List UInt8) :
    IsProgram bytes ↔ ∃ stmts, (ofBytes path bytes).tree = .ok stmts := by
  unfold ofBytes
  constructor
  · rintro ⟨text, stmts, hencode, hnull, hparse⟩
    refine ⟨stmts, ?_⟩
    simp only [(Text.decodeUtf8_eq_ok_iff bytes text).mpr hencode, ofText, hparse]
    exact if_neg (by simpa using hnull)
  · rintro ⟨stmts, htree⟩
    cases hdecode : Text.decodeUtf8 bytes with
    | error fault =>
      rw [hdecode] at htree
      exact nomatch htree
    | ok text =>
      have hencode := (Text.decodeUtf8_eq_ok_iff bytes text).mp hdecode
      simp only [hdecode, ofText] at htree
      split at htree
      · exact nomatch htree
      · rename_i hnull
        cases hparse : parse (Text.unifyNewlines text) with
        | error fault =>
          rw [hparse] at htree
          exact nomatch htree
        | ok stmts' => exact ⟨text, stmts', hencode, by simpa using hnull, hparse⟩

instance (bytes : List UInt8) : Decidable (IsProgram bytes) :=
  decidable_of_iff ((SourceFile.ofBytes (.absolute []) bytes).tree.toOption.isSome = true) <| by
    rw [SourceFile.isProgram_iff (.absolute [])]
    cases (SourceFile.ofBytes (.absolute []) bytes).tree <;> simp [Except.toOption]

/-- Bytes that are not a program give a syntax error. -/
theorem SourceFile.exists_error {bytes : List UInt8} (hbytes : ¬ IsProgram bytes) (path : Path) :
    ∃ e, (ofBytes path bytes).tree = .error e := by
  cases htree : (ofBytes path bytes).tree with
  | error e => exact ⟨e, rfl⟩
  | ok stmts => exact absurd ((isProgram_iff path bytes).mpr ⟨stmts, htree⟩) hbytes

/-- The bytes of a file do not change its path. -/
theorem SourceFile.path_ofBytes (path : Path) (bytes : List UInt8) :
    (ofBytes path bytes).path = path := by
  unfold ofBytes
  split <;> rfl

/-- A breach of a program is an error about the file. -/
theorem Governance.exists_breach {g : Governance} {file : SourceFile} {stmts : List Stmt}
    (htree : file.tree = .ok stmts) {d : Diagnostic} (hd : d ∈ g.breaches file) :
    ∃ b, d = Breach.diagnostic file b := by
  by_cases hpragmas : Pragma.read file.lines = []
  · rw [breaches, hpragmas] at hd
    cases hd
  · rw [breaches_eq g htree hpragmas] at hd
    obtain ⟨b, -, rfl⟩ := List.mem_map.mp hd
    exact ⟨b, rfl⟩

namespace Settings

variable (s : Settings)

/-- The diagnostics of a file with these bytes. -/
def lintBytes (path : Path) (bytes : List UInt8) : List Diagnostic :=
  s.lintFile (SourceFile.ofBytes path bytes)

/-- A diagnostic of a file names the file and has a severity that counts. -/
theorem mem_lintFile {s : Settings} {file : SourceFile} {d : Diagnostic}
    (hd : d ∈ s.lintFile file) : d.file = file.path ∧ d.severity ≠ .off := by
  unfold lintFile at hd
  cases htree : file.tree with
  | error e =>
    rw [htree] at hd
    obtain rfl := List.mem_singleton.mp hd
    exact ⟨rfl, Severity.noConfusion⟩
  | ok stmts =>
    simp only [htree] at hd
    rw [Governance.apply_eq, List.mem_append] at hd
    rcases hd with hd | hd
    · obtain ⟨b, rfl⟩ := Governance.exists_breach htree hd
      exact ⟨rfl, Severity.noConfusion⟩
    · obtain ⟨henabled, className, m, rfl⟩ :=
        Governance.exists_report_of_findings (List.mem_of_mem_filter hd)
      exact ⟨rfl, of_decide_eq_true henabled⟩

/-- Bytes that are not a program give one error. -/
theorem lintBytes_of_not_isProgram (path : Path) {bytes : List UInt8} (hbytes : ¬ IsProgram bytes) :
    ∃ d, s.lintBytes path bytes = [d] ∧
      d.file = path ∧ d.code = "SYN001" ∧ d.severity = .error := by
  obtain ⟨e, he⟩ := SourceFile.exists_error hbytes path
  refine ⟨e.diagnostic path, ?_, rfl, rfl, rfl⟩
  rw [lintBytes, lintFile, he, SourceFile.path_ofBytes]

end Settings

/-! ## The results of all files -/

namespace Run

/-- Collecting file by file collects the diagnostics of all files, one file after the other. -/
theorem collection_result (r : Run) :
    r.result.collection = Collection.empty.addAll (r.files.flatMap r.settings.lintFile) :=
  List.foldl_flatMap.symm

/-- The diagnostics of a run are those of its files, one file after the other. -/
theorem items_result (r : Run) :
    r.result.collection.items = r.files.flatMap r.settings.lintFile := by
  rw [collection_result, Collection.items_addAll]
  rfl

/-- The counts of a run are those of its diagnostics. -/
theorem count_result (r : Run) (severity : Severity) :
    r.result.collection.count severity =
      r.result.collection.items.countP fun d => d.severity = severity := by
  have hempty : Collection.empty.count severity = 0 := by cases severity <;> rfl
  rw [items_result, collection_result, Collection.count_addAll, hempty, Nat.zero_add]

/-- A run fails exactly if one of its diagnostics is an error. -/
theorem exitCode_result (r : Run) :
    r.result.exitCode = if ∃ d ∈ r.result.collection.items, d.severity = .error then 1 else 0 := by
  have herrors : r.result.collection.hasErrors = true ↔
      ∃ d ∈ r.result.collection.items, d.severity = .error := by
    rw [Collection.hasErrors, count_result]
    simp [List.countP_pos_iff]
  rw [RunResult.exitCode]
  simp only [herrors]

end Run

/-- Of the diagnostics of several files, those that name a file are its own. -/
theorem filter_flatMap_file {files : List Path} (hnodup : files.Nodup)
    {own : Path → List Diagnostic} (hown : ∀ f ∈ files, ∀ d ∈ own f, d.file = f) {f : Path}
    (hf : f ∈ files) : (files.flatMap own).filter (fun d => d.file = f) = own f := by
  induction files with
  | nil => exact absurd hf List.not_mem_nil
  | cons g files ih =>
    rw [List.nodup_cons] at hnodup
    have hrest : ∀ g ∈ files, ∀ d ∈ own g, d.file = g :=
      fun g hg => hown g (List.mem_cons_of_mem _ hg)
    rw [List.flatMap_cons, List.filter_append]
    by_cases hfg : f = g
    · subst hfg
      have hothers : (files.flatMap own).filter (fun d => d.file = f) = [] := by
        rw [List.filter_eq_nil_iff]
        intro d hd hfile
        obtain ⟨g, hg, hd⟩ := List.mem_flatMap.mp hd
        have hgf : g = f := (hrest g hg d hd).symm.trans (of_decide_eq_true hfile)
        exact hnodup.1 (hgf ▸ hg)
      rw [hothers, List.append_nil, List.filter_eq_self]
      exact fun d hd => decide_eq_true (hown f hf d hd)
    · have hfirst : (own g).filter (fun d => d.file = f) = [] := by
        rw [List.filter_eq_nil_iff]
        intro d hd hfile
        exact hfg ((of_decide_eq_true hfile).symm.trans (hown g List.mem_cons_self d hd))
      rw [hfirst, List.nil_append]
      exact ih hnodup.2 hrest ((List.mem_cons.mp hf).resolve_left hfg)

namespace Run

open Discovery (selected rootsOf)

variable {t : FileTree} {s : Settings} {cwd : Path} {paths : List Path} {f : Path}

/-- A file of a run is there, and it is read as its bytes. -/
theorem exists_bytes (hf : f ∈ selected t s (rootsOf cwd paths)) :
    ∃ bytes, t.find? f.parts = some (.file bytes) ∧
      t.readSource cwd f = SourceFile.ofBytes f bytes := by
  have hroots : ∀ root ∈ rootsOf cwd paths, root.anchor = .root :=
    fun root => Discovery.anchor_of_mem_rootsOf
  obtain ⟨⟨root, hroot, h⟩, -⟩ := (Discovery.mem_selected hroots f).mp hf
  obtain ⟨bytes, hbytes⟩ := (t.isFile_iff _).mp h.1
  have hanchor : f.anchor ≠ .relative := by
    rw [Discovery.anchor_of_gives (hroots root hroot) h]
    exact Anchor.noConfusion
  refine ⟨bytes, hbytes, ?_⟩
  rw [FileTree.readSource, FileTree.read_of_find? hanchor hbytes]

/-- The bytes that a tree has at a path; none if there is no file. -/
def bytesAt (t : FileTree) (f : Path) : List UInt8 :=
  match t.find? f.parts with
  | some (.file bytes) => bytes
  | _ => []

theorem bytesAt_eq {bytes : List UInt8} (h : t.find? f.parts = some (.file bytes)) :
    bytesAt t f = bytes := by
  rw [bytesAt, h]

/-- The diagnostics of a run are those of its files, each read as its bytes. -/
theorem items_ofPaths (t : FileTree) (cwd : Path) (s : Settings) (paths : List Path) :
    (ofPaths t cwd s paths).result.collection.items =
      (selected t s (rootsOf cwd paths)).flatMap fun f => s.lintBytes f (bytesAt t f) := by
  rw [items_result]
  simp only [ofPaths, List.flatMap_map]
  refine List.flatMap_congr fun f hf => ?_
  obtain ⟨bytes, hbytes, hread⟩ := exists_bytes hf
  rw [hread, bytesAt_eq hbytes, Settings.lintBytes]

/-- The diagnostics of a run that name a file are the result of the file. -/
theorem filter_items_ofPaths (hf : f ∈ selected t s (rootsOf cwd paths)) {bytes : List UInt8}
    (hbytes : t.find? f.parts = some (.file bytes)) :
    (ofPaths t cwd s paths).result.collection.items.filter (fun d => d.file = f) =
      s.lintBytes f bytes := by
  have hroots : ∀ root ∈ rootsOf cwd paths, root.anchor = .root :=
    fun root => Discovery.anchor_of_mem_rootsOf
  have hnodup : (selected t s (rootsOf cwd paths)).Nodup := by
    refine (Discovery.pairwise_selected hroots).imp fun {f g} hlt heq => ?_
    rw [heq] at hlt
    exact List.lt_irrefl _ hlt
  rw [items_ofPaths, filter_flatMap_file hnodup ?_ hf, bytesAt_eq hbytes]
  intro g _ d hd
  rw [(Settings.mem_lintFile hd).1, SourceFile.path_ofBytes]

/-- The settings of the preset that turns all rules off. -/
def quiet : Settings := { preset := .quiet, severities := Preset.quiet.severities }

end Run
end NodeLint
