import Mathlib.Data.List.Basic
import NodeLint.Settings.Validation
import NodeLint.Proofs.Sorted

/-!
# The problems of settings

Settings are checked one by one, and no problem hides another. A table is checked key by key: first
come the keys that are not known, sorted, then the settings in a fixed order. What is found under a
key hangs on the value under that key alone, so that the problems of a table are those that its keys
have when each stands alone. The same holds inside the two tables that settings can hold, where the
rules are checked entry by entry.
-/

namespace NodeLint

/-! ## Single keys of a table -/

namespace Table

variable (t : Table) {known : List String} {key other : String}

/-- The entries of a table under one key. -/
def only (key : String) : Table := t.filter fun e => e.1 = key

/-- The keys of a table that are not known, sorted. -/
def unknownKeys (known : List String) : List String :=
  Text.sortedSet (t.keys.filter fun k => !known.contains k)

theorem get?_only_self : (t.only key).get? key = t.get? key := by
  induction t with
  | nil => rfl
  | cons e t ih =>
    obtain ⟨k, v⟩ := e
    by_cases hk : k = key
    · simp [only, get?, hk]
    · have hbeq : (key == k) = false := beq_eq_false_iff_ne.mpr (Ne.symm hk)
      simpa [only, get?, hk, List.lookup_cons, hbeq] using ih

theorem get?_only_of_ne (hother : other ≠ key) : (t.only key).get? other = none := by
  rw [get?, List.lookup_eq_none_iff]
  intro e he
  have hkey : e.1 = key := by simpa using (List.mem_filter.mp he).2
  simpa [hkey] using hother

theorem mem_unknownKeys (k : String) : k ∈ t.unknownKeys known ↔ k ∈ t.keys ∧ k ∉ known := by
  simp [unknownKeys, Text.mem_sortedSet]

theorem mem_keys_only (k : String) : k ∈ (t.only key).keys ↔ k ∈ t.keys ∧ k = key := by
  rw [only, keys, keys, List.mem_map, List.mem_map]
  constructor
  · rintro ⟨e, he, rfl⟩
    obtain ⟨hmem, hkey⟩ := List.mem_filter.mp he
    exact ⟨⟨e, hmem, rfl⟩, of_decide_eq_true hkey⟩
  · rintro ⟨⟨e, hmem, rfl⟩, hkey⟩
    exact ⟨e, List.mem_filter.mpr ⟨hmem, decide_eq_true hkey⟩, rfl⟩

/-- Alone, a known key leaves nothing unknown. -/
theorem unknownKeys_only_of_known (hkey : key ∈ known) : (t.only key).unknownKeys known = [] := by
  rw [List.eq_nil_iff_forall_not_mem]
  intro k hk
  obtain ⟨hmem, hunknown⟩ := (mem_unknownKeys _ k).mp hk
  exact hunknown (((mem_keys_only t k).mp hmem).2 ▸ hkey)

variable {t} in
/-- Alone, an unknown key is the only one. -/
theorem unknownKeys_only (hkey : key ∈ t.unknownKeys known) :
    (t.only key).unknownKeys known = [key] := by
  obtain ⟨hmem, hunknown⟩ := (mem_unknownKeys t key).mp hkey
  refine Text.sortedSet_eq (List.pairwise_singleton _ _) fun k => ?_
  rw [List.mem_filter, mem_keys_only, List.mem_singleton]
  constructor
  · rintro rfl
    exact ⟨⟨hmem, rfl⟩, by simpa using hunknown⟩
  · exact fun h => h.1.2

end Table

namespace Settings

/-! ## Checks key by key -/

/-- Checks of single settings, each with the key that the setting stands under. -/
abbrev Checks := List (String × (Option Value → List Problem))

namespace Checks

/-- What is found in a table: the keys that are not known, and then what each check finds. -/
def run (checks : Checks) (front : String) (known : List String) (t : Table) : List Problem :=
  unknownSettings front known t ++ checks.flatMap fun c => c.2 (t.get? c.1)

/-- Whether checks are of known settings, each setting is checked once, and an absent one is never
a problem. -/
structure Lawful (checks : Checks) (known : List String) : Prop where
  known : ∀ c ∈ checks, c.1 ∈ known
  distinct : (checks.map Prod.fst).Nodup
  absent : ∀ c ∈ checks, c.2 none = []

variable {checks : Checks} {known : List String} {key : String} (t : Table)

/-- A key that no check is about gives the checks nothing to find. -/
theorem flatMap_only_of_ne (habsent : ∀ c ∈ checks, c.2 none = [])
    (hkey : ∀ c ∈ checks, c.1 ≠ key) :
    (checks.flatMap fun c => c.2 ((t.only key).get? c.1)) = [] := by
  rw [List.flatMap_eq_nil_iff]
  intro c hc
  rw [t.get?_only_of_ne (hkey c hc), habsent c hc]

/-- A key that a check is about gives this check what it finds in the table, and nothing to the
others. -/
theorem flatMap_only (hchecks : checks.Lawful known) {c : String × (Option Value → List Problem)}
    (hc : c ∈ checks) :
    (checks.flatMap fun d => d.2 ((t.only c.1).get? d.1)) = c.2 (t.get? c.1) := by
  obtain ⟨before, after, rfl⟩ := List.append_of_mem hc
  have hdistinct := hchecks.distinct
  rw [List.map_append, List.map_cons, List.nodup_append, List.nodup_cons] at hdistinct
  obtain ⟨-, ⟨hafter, -⟩, hbefore⟩ := hdistinct
  have hfirst : (before.flatMap fun d => d.2 ((t.only c.1).get? d.1)) = [] :=
    flatMap_only_of_ne t (fun d hd => hchecks.absent d (List.mem_append_left _ hd))
      fun d hd => hbefore d.1 (List.mem_map_of_mem hd) c.1 List.mem_cons_self
  have hlast : (after.flatMap fun d => d.2 ((t.only c.1).get? d.1)) = [] :=
    flatMap_only_of_ne t
      (fun d hd => hchecks.absent d (List.mem_append_right _ (List.mem_cons_of_mem c hd)))
      fun d hd heq => hafter (heq ▸ List.mem_map_of_mem hd)
  rw [List.flatMap_append, List.flatMap_cons, hfirst, hlast, t.get?_only_self, List.nil_append,
    List.append_nil]

/-- Alone, an unknown key is all that is found. -/
theorem run_only_of_unknown (hchecks : checks.Lawful known) (front : String) {t : Table}
    (hkey : key ∈ t.unknownKeys known) :
    checks.run front known (t.only key) = [.unknownSetting (front ++ key)] := by
  have hne : ∀ c ∈ checks, c.1 ≠ key := fun c hc heq =>
    ((t.mem_unknownKeys key).mp hkey).2 (heq ▸ hchecks.known c hc)
  rw [run, unknownSettings, ← Table.unknownKeys, Table.unknownKeys_only hkey, List.map_singleton,
    flatMap_only_of_ne t hchecks.absent hne, List.append_nil]

/-- Alone, a setting has the problems that its check finds in the table. -/
theorem run_only_of_mem (hchecks : checks.Lawful known) (front : String)
    {c : String × (Option Value → List Problem)} (hc : c ∈ checks) :
    checks.run front known (t.only c.1) = c.2 (t.get? c.1) := by
  rw [run, unknownSettings, ← Table.unknownKeys, t.unknownKeys_only_of_known (hchecks.known c hc),
    List.map_nil, flatMap_only t hchecks hc, List.nil_append]

/-- Checking one key at a time finds all that is found in the table, in the same order. -/
theorem run_eq_flatMap_only (hchecks : checks.Lawful known) (front : String) :
    checks.run front known t =
      (t.unknownKeys known ++ checks.map Prod.fst).flatMap fun k =>
        checks.run front known (t.only k) := by
  have hunknown : (t.unknownKeys known).flatMap (fun k => checks.run front known (t.only k)) =
      unknownSettings front known t := by
    rw [List.flatMap_congr fun k hk => run_only_of_unknown hchecks front hk]
    exact List.flatMap_pure_eq_map _ _
  have hknown : (checks.map Prod.fst).flatMap (fun k => checks.run front known (t.only k)) =
      checks.flatMap fun c => c.2 (t.get? c.1) := by
    rw [List.flatMap_map]
    exact List.flatMap_congr fun c hc => run_only_of_mem t hchecks front hc
  rw [List.flatMap_append, hunknown, hknown, run]

end Checks

/-! ## The checks of the settings -/

/-- What is wrong with a setting that has to be a table, or with what stands in the table. -/
def tableProblems (name : String) (find : Table → List Problem) (o : Option Value) : List Problem :=
  let table := checkTable name o
  table.problems ++ find table.value

/-- The checks of the settings, in the order in which problems are told. -/
def checks : Checks := [
  ("preset", fun o => (checkPreset o).problems),
  ("include", fun o => (checkPatterns "include" defaultIncludes o).problems),
  ("exclude", fun o => (checkPatterns "exclude" defaultExcludes o).problems),
  ("output_format", fun o =>
    (checkChoice "output_format" OutputFormat.all OutputFormat.word .text o).problems),
  ("show_source", fun o => (checkFlag "show_source" true o).problems),
  ("color", fun o => (checkChoice "color" ColorMode.all ColorMode.word .auto o).problems),
  ("rules", tableProblems "rules" fun r => (checkRules r).problems),
  ("ignores", tableProblems "ignores" fun g => (checkIgnores g).problems)]

/-- The checks of the settings about pragmas, in the order in which problems are told. -/
def ignoresChecks : Checks := [
  ("disallow", fun o => (checkDisallow o).problems),
  ("max_per_file", fun o => (checkLimit o).problems),
  ("require_reason", fun o => (checkFlag "ignores.require_reason" true o).problems)]

/-- The problems of a table are what these checks find. -/
theorem problems_check (path : Option Path) (t : Table) :
    (check path t).problems = checks.run "" knownSettings t := by
  simp [check, Checks.run, checks, tableProblems]

theorem problems_checkIgnores (g : Table) :
    (checkIgnores g).problems = ignoresChecks.run "ignores." knownIgnores g := by
  simp [checkIgnores, Checks.run, ignoresChecks]

/-- The rules are checked entry by entry. -/
theorem problems_checkRules (r : Table) :
    (checkRules r).problems = r.flatMap fun e => (checkRule e.1 e.2).problems := by
  induction r with
  | nil => rfl
  | cons e r ih => rw [checkRules, List.flatMap_cons, ← ih]

theorem problems_checkIgnores_nil : (checkIgnores []).problems = [] := by
  simp [checkIgnores, unknownSettings, Table.keys, Text.sortedSet, checkDisallow, checkLimit,
    checkFlag, Table.get?]

theorem lawful_ignoresChecks : ignoresChecks.Lawful knownIgnores where
  known := by decide
  distinct := by decide
  absent := by simp [ignoresChecks, checkDisallow, checkLimit, checkFlag]

theorem lawful_checks : checks.Lawful knownSettings where
  known := by decide
  distinct := by decide
  absent := by
    simp [checks, checkPreset, checkPatterns, checkChoice, checkFlag, tableProblems, checkTable,
      checkRules, problems_checkIgnores_nil]

/-- A setting alone has the problems that its check finds. -/
theorem problems_check_single (path : Option Path) (v : Value) {key : String}
    {find : Option Value → List Problem} (hcheck : (key, find) ∈ checks) :
    (check path [(key, v)]).problems = find (some v) := by
  have honly : Table.only [(key, v)] key = [(key, v)] := by simp [Table.only]
  have hget : Table.get? [(key, v)] key = some v := by simp [Table.get?]
  rw [problems_check, ← honly, Checks.run_only_of_mem _ lawful_checks "" hcheck, hget]

theorem problems_check_rules (path : Option Path) (r : Table) :
    (check path [("rules", .table r)]).problems = (checkRules r).problems := by
  have hmem : ("rules", tableProblems "rules" fun r => (checkRules r).problems) ∈ checks := by
    simp [checks]
  rw [problems_check_single path (.table r) hmem]
  rfl

theorem problems_check_ignores (path : Option Path) (g : Table) :
    (check path [("ignores", .table g)]).problems = (checkIgnores g).problems := by
  have hmem : ("ignores", tableProblems "ignores" fun g => (checkIgnores g).problems) ∈ checks := by
    simp [checks]
  rw [problems_check_single path (.table g) hmem]
  rfl

/-! ## The outcome -/

/-- A table is accepted exactly if it has no problem, and it gives the checked settings. -/
theorem ofTable_eq_ok_iff (path : Option Path) (t : Table) (s : Settings) :
    ofTable path t = .ok s ↔ (check path t).problems = [] ∧ (check path t).value = s := by
  rw [ofTable]
  split
  · simp [*]
  · simp [*]

/-- A table is refused with all of its problems, and with no empty list of them. -/
theorem ofTable_eq_error_iff (path : Option Path) (t : Table) (found : List Problem) :
    ofTable path t = .error found ↔ found ≠ [] ∧ found = (check path t).problems := by
  rw [ofTable]
  split
  · rename_i hnone
    simp [hnone]
  · rename_i hsome
    constructor
    · intro herror
      obtain rfl := Except.error.inj herror
      exact ⟨hsome, rfl⟩
    · rintro ⟨-, rfl⟩
      rfl

/-- No problem hides another. The problems of a table are those of its keys, each alone: of the keys
that are not known, sorted, and then of the settings in this order. Inside the table of settings
about pragmas it is the same, and the rules are taken entry by entry. A table is refused exactly if
it has problems, with all of them, and otherwise it gives settings. -/
theorem problems_of_each_key (path : Option Path) (t : Table) :
    let problems (t : Table) := (check path t).problems
    let all := (t.unknownKeys knownSettings ++ ["preset", "include", "exclude", "output_format",
      "show_source", "color", "rules", "ignores"]).flatMap fun k => problems (t.only k)
    (∀ (known : List String) (t : Table), (t.unknownKeys known).Pairwise (· < ·) ∧
      ∀ k, k ∈ t.unknownKeys known ↔ k ∈ t.keys ∧ k ∉ known) ∧
    problems t = all ∧
    (∀ g : Table, problems [("ignores", .table g)] =
      (g.unknownKeys knownIgnores ++ ["disallow", "max_per_file", "require_reason"]).flatMap
        fun k => problems [("ignores", .table (g.only k))]) ∧
    (∀ r : Table, problems [("rules", .table r)] =
      r.flatMap fun e => problems [("rules", .table [e])]) ∧
    (∀ found, ofTable path t = .error found ↔ found ≠ [] ∧ found = all) ∧
    ((∃ s, ofTable path t = .ok s) ↔ all = []) := by
  intro problems all
  have hall : problems t = all := by
    have hrun := Checks.run_eq_flatMap_only t lawful_checks ""
    simp only [← problems_check path] at hrun
    exact hrun
  refine ⟨fun known t => ⟨Text.pairwise_sortedSet _, t.mem_unknownKeys⟩, hall, fun g => ?_,
    fun r => ?_, fun found => ?_, ?_⟩
  · simp only [problems, problems_check_ignores, problems_checkIgnores]
    exact Checks.run_eq_flatMap_only g lawful_ignoresChecks "ignores."
  · simp only [problems, problems_check_rules, problems_checkRules, List.flatMap_singleton]
  · rw [ofTable_eq_error_iff, ← hall]
  · simp only [ofTable_eq_ok_iff, exists_and_left, exists_eq', and_true, ← hall, problems]

end Settings
end NodeLint
