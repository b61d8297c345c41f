import Mathlib.Data.List.Perm.Basic
import NodeLint.Proofs.Settings.Schema

/-!
# Settings in another order

Whether the order of the keys of settings matters. It does not for what is wrong with them: in any
order a table has the same problems. Nor does it for any setting but the severities of rules. There
the last entry decides, and keys that differ in case only are about the same code: so the order
matters exactly if two entries give one code different severities.
-/

namespace NodeLint

/-! ## Tables in another order -/

/-- Whether tables have the same keys in the same order, with related values. -/
inductive Table.Alike (R : Value → Value → Prop) : Table → Table → Prop
  | nil : Table.Alike R [] []
  | cons (key : String) {v w : Value} {t u : Table} (hvalue : R v w) (hrest : Table.Alike R t u) :
      Table.Alike R ((key, v) :: t) ((key, w) :: u)

namespace Value

/-- Whether a value is another one with the entries of its tables, at any depth, in some other
order. -/
inductive Reordered : Value → Value → Prop
  | refl (v : Value) : Reordered v v
  | list {items items' : List Value} (hitems : List.Forall₂ Reordered items items') :
      Reordered (.list items) (.list items')
  | table {t m u : Table} (hperm : t.Perm m) (hentries : Table.Alike Reordered m u) :
      Reordered (.table t) (.table u)

/-- Whether some table in a value has a key twice. -/
inductive Repeats : Value → Prop
  | item {items : List Value} {v : Value} (hmem : v ∈ items) (h : Repeats v) : Repeats (.list items)
  | entry {t : Table} {e : String × Value} (hmem : e ∈ t) (h : Repeats e.2) : Repeats (.table t)
  | key {t : Table} (h : ¬ t.keys.Nodup) : Repeats (.table t)

theorem not_repeats_table_iff (t : Table) :
    ¬ Repeats (.table t) ↔ t.keys.Nodup ∧ ∀ e ∈ t, ¬ Repeats e.2 := by
  constructor
  · exact fun h => ⟨not_not.mp fun hkeys => h (.key hkeys), fun e he hentry => h (.entry he hentry)⟩
  · rintro ⟨hkeys, hentries⟩ h
    cases h with
    | entry hmem h => exact hentries _ hmem h
    | key h => exact h hkeys

theorem not_repeats_str (text : String) : ¬ Repeats (.str text) := nofun

end Value

namespace Table.Alike

variable {R : Value → Value → Prop} {m u : Table}

theorem refl (hrefl : ∀ v, R v v) (t : Table) : Alike R t t := by
  induction t with
  | nil => exact .nil
  | cons e t ih => exact .cons e.1 (hrefl e.2) ih

theorem keys_eq (h : Alike R m u) : m.keys = u.keys := by
  induction h with
  | nil => rfl
  | cons key hvalue hrest ih => exact congrArg (key :: ·) ih

theorem get? (h : Alike R m u) (key : String) : Option.Rel R (m.get? key) (u.get? key) := by
  induction h with
  | nil => exact .none
  | cons k hvalue hrest ih =>
    rw [Table.get?, Table.get?, List.lookup_cons, List.lookup_cons]
    split
    · exact .some hvalue
    · exact ih

/-- Putting a related value in the place of a value leaves the tables alike. -/
theorem set (hrefl : ∀ v, R v v) {key : String} {v w : Value} (h : R v w) {t : Table}
    (hget : t.get? key = some v) : Alike R t (t.set key w) := by
  induction t with
  | nil => exact nomatch hget
  | cons e t ih =>
    obtain ⟨k, old⟩ := e
    rw [Table.get?, List.lookup_cons] at hget
    rw [Table.set]
    split
    · rename_i hkey
      obtain rfl : old = v := by simpa [hkey] using hget
      exact .cons k h (.refl hrefl t)
    · rename_i hkey
      have hbeq : (key == k) = false := beq_eq_false_iff_ne.mpr (Ne.symm hkey)
      rw [hbeq] at hget
      exact .cons k (hrefl old) (ih hget)

end Table.Alike

namespace Value

/-- A table is reordered by putting its entries in another order, and then each value in its
place. -/
theorem reordered_table_iff (t u : Table) :
    Reordered (.table t) (.table u) ↔ ∃ m, t.Perm m ∧ Table.Alike Reordered m u := by
  constructor
  · intro h
    cases h with
    | refl => exact ⟨t, .refl t, .refl .refl t⟩
    | table hperm hentries => exact ⟨_, hperm, hentries⟩
  · rintro ⟨m, hperm, hentries⟩
    exact .table hperm hentries

theorem reordered_of_perm {t u : Table} (h : t.Perm u) : Reordered (.table t) (.table u) :=
  .table h (.refl .refl u)

/-- On the way to a reordered table no key comes to stand twice in a value. -/
theorem exists_alike {t u : Table} (ht : ¬ Repeats (.table t))
    (h : Reordered (.table t) (.table u)) :
    ∃ m, t.Perm m ∧ (∀ e ∈ m, ¬ Repeats e.2) ∧ Table.Alike Reordered m u := by
  obtain ⟨m, hperm, hentries⟩ := (reordered_table_iff t u).mp h
  have hvalues := ((not_repeats_table_iff t).mp ht).2
  exact ⟨m, hperm, fun e he => hvalues e (hperm.mem_iff.mpr he), hentries⟩

theorem Reordered.text?_eq {v w : Value} (h : Reordered v w) : v.text? = w.text? := by
  cases h <;> rfl

theorem map_text?_eq {items items' : List Value} (h : List.Forall₂ Reordered items items') :
    items.map text? = items'.map text? := by
  induction h with
  | nil => rfl
  | cons hvalue hitems ih => rw [List.map_cons, List.map_cons, hvalue.text?_eq, ih]

theorem Reordered.texts?_eq {v w : Value} (h : Reordered v w) : v.texts? = w.texts? := by
  cases h with
  | refl => rfl
  | @list items items' hitems =>
    have hmap (items : List Value) : items.mapM text? = (items.map text?).mapM id := by
      rw [List.mapM_map, Function.id_comp]
    rw [texts?, texts?, hmap items, hmap items', map_text?_eq hitems]
  | table => rfl

end Value

namespace Table

variable {t u : Table} {key : String} {v : Value}

theorem get?_eq_some_iff (hkeys : t.keys.Nodup) : t.get? key = some v ↔ (key, v) ∈ t := by
  rw [get?, List.lookup_eq_some_iff]
  constructor
  · rintro ⟨front, back, rfl, -⟩
    exact List.mem_append_right _ List.mem_cons_self
  · intro hmem
    obtain ⟨front, back, rfl⟩ := List.append_of_mem hmem
    refine ⟨front, back, rfl, fun e he => ?_⟩
    rw [keys, List.map_append, List.nodup_append] at hkeys
    have hne : e.1 ≠ key :=
      hkeys.2.2 e.1 (List.mem_map_of_mem he) key (List.mem_map_of_mem List.mem_cons_self)
    simpa using hne.symm

/-- Where no key stands twice, the order of the entries does not matter for what is found. -/
theorem get?_perm (h : t.Perm u) (hkeys : t.keys.Nodup) (key : String) :
    t.get? key = u.get? key := by
  have hkeys' : u.keys.Nodup := (h.map Prod.fst).nodup hkeys
  refine Option.ext fun v => ?_
  rw [get?_eq_some_iff hkeys, get?_eq_some_iff hkeys', h.mem_iff]

theorem get?_set_self (t : Table) (key : String) (v : Value) : (t.set key v).get? key = some v := by
  induction t with
  | nil => simp [set, get?]
  | cons e t ih =>
    obtain ⟨k, old⟩ := e
    rw [set]
    split
    · rename_i hkey
      simp [get?, hkey]
    · rename_i hkey
      have hbeq : (key == k) = false := beq_eq_false_iff_ne.mpr (Ne.symm hkey)
      rw [get?, List.lookup_cons, hbeq]
      exact ih

theorem keys_perm (h : Value.Reordered (.table t) (.table u)) : t.keys.Perm u.keys := by
  obtain ⟨m, hperm, hentries⟩ := (Value.reordered_table_iff t u).mp h
  exact hentries.keys_eq ▸ hperm.map Prod.fst

/-- Under each key of a reordered table stands the reordered value. -/
theorem get?_reordered (ht : ¬ Value.Repeats (.table t))
    (h : Value.Reordered (.table t) (.table u)) (key : String) :
    Option.Rel Value.Reordered (t.get? key) (u.get? key) := by
  obtain ⟨m, hperm, hentries⟩ := (Value.reordered_table_iff t u).mp h
  rw [get?_perm hperm ((Value.not_repeats_table_iff t).mp ht).1]
  exact hentries.get? key

theorem not_repeats_of_get? (ht : ¬ Value.Repeats (.table t)) (hv : t.get? key = some v) :
    ¬ Value.Repeats v := by
  obtain ⟨hkeys, hentries⟩ := (Value.not_repeats_table_iff t).mp ht
  exact hentries _ ((get?_eq_some_iff hkeys).mp hv)

end Table

namespace Settings

/-! ## Checks of reordered values -/

section Values

variable {o o' : Option Value} (h : Option.Rel Value.Reordered o o')
include h

theorem checkPatterns_reordered (name : String) (fallback : List String) :
    checkPatterns name fallback o = checkPatterns name fallback o' := by
  cases h with
  | none => rfl
  | some h => rw [checkPatterns, checkPatterns, h.texts?_eq]

theorem checkChoice_reordered {α : Type} (name : String) (all : List α) (word : α → String)
    (fallback : α) :
    checkChoice name all word fallback o = checkChoice name all word fallback o' := by
  cases h with
  | none => rfl
  | some h => rw [checkChoice, checkChoice, h.text?_eq]

theorem checkPreset_reordered : checkPreset o = checkPreset o' := by
  cases h with
  | none => rfl
  | some h => rw [checkPreset, checkPreset, h.text?_eq]

theorem checkFlag_reordered (name : String) (fallback : Bool) :
    checkFlag name fallback o = checkFlag name fallback o' := by
  cases h with
  | none => rfl
  | some h => cases h <;> rfl

theorem checkLimit_reordered : checkLimit o = checkLimit o' := by
  cases h with
  | none => rfl
  | some h => cases h <;> rfl

theorem checkDisallow_reordered : checkDisallow o = checkDisallow o' := by
  cases h with
  | none => rfl
  | some h =>
    cases h with
    | refl => rfl
    | @list items items' hitems =>
      have hmap (items : List Value) :
          items.filterMap Value.text? = (items.map Value.text?).filterMap id := by
        rw [List.filterMap_map, Function.id_comp]
      have htexts : items.filterMap Value.text? = items'.filterMap Value.text? := by
        rw [hmap items, hmap items', Value.map_text?_eq hitems]
      have hlength : items.length = items'.length := by
        simpa using congrArg List.length (Value.map_text?_eq hitems)
      simp only [checkDisallow, htexts, hlength]
    | table => rfl

/-- A setting that has to be a table is one in any order, or is wrong in any order. -/
theorem checkTable_reordered (name : String) :
    (checkTable name o).problems = (checkTable name o').problems ∧
      Value.Reordered (.table (checkTable name o).value) (.table (checkTable name o').value) := by
  cases h with
  | none => exact ⟨rfl, .refl _⟩
  | some h =>
    cases h with
    | refl => exact ⟨rfl, .refl _⟩
    | list => exact ⟨rfl, .refl _⟩
    | table hperm hentries => exact ⟨rfl, .table hperm hentries⟩

end Values

theorem unknownSettings_perm (front : String) (known : List String) {t u : Table}
    (h : t.keys.Perm u.keys) : unknownSettings front known t = unknownSettings front known u := by
  rw [unknownSettings, unknownSettings, Text.sortedSet_perm (h.filter _)]

/-- The settings about pragmas are the same in any order. -/
theorem checkIgnores_reordered {g g' : Table} (hg : ¬ Value.Repeats (.table g))
    (h : Value.Reordered (.table g) (.table g')) : checkIgnores g = checkIgnores g' := by
  have hget := Table.get?_reordered hg h
  rw [checkIgnores, checkIgnores, checkDisallow_reordered (hget "disallow"),
    checkLimit_reordered (hget "max_per_file"), checkFlag_reordered (hget "require_reason"),
    unknownSettings_perm "ignores." knownIgnores (Table.keys_perm h)]

theorem not_repeats_checkTable {t : Table} (ht : ¬ Value.Repeats (.table t)) (name key : String) :
    ¬ Value.Repeats (.table (checkTable name (t.get? key)).value) := by
  have hempty : ¬ Value.Repeats (.table []) := by simp [Value.not_repeats_table_iff, Table.keys]
  cases hget : t.get? key with
  | none => exact hempty
  | some v =>
    cases v with
    | table g => exact Table.not_repeats_of_get? ht hget
    | _ => exact hempty

theorem value_checkTable {o : Option Value} {t : Table} (ht : Holds IsTable [] o t)
    (name : String) : (checkTable name o).value = t := by
  cases ht with
  | absent => rfl
  | given ht => rw [(reads_checkTable name).given ht]

/-! ## The rules in another order -/

theorem checkSeverity_reordered (name : String) {v w : Value} (h : v.Reordered w) :
    checkSeverity name v = checkSeverity name w := by
  rw [checkSeverity, checkSeverity, h.text?_eq]

/-- The value of a rule means the same in any order. -/
theorem checkRuleValue_reordered (key : String) {v w : Value} (hv : ¬ v.Repeats)
    (h : v.Reordered w) : checkRuleValue key v = checkRuleValue key w := by
  cases h with
  | refl => rfl
  | list => rfl
  | @table t m u hperm hentries =>
    have h : Value.Reordered (.table t) (.table u) := .table hperm hentries
    have hextra := Text.sortedSet_perm ((Table.keys_perm h).filter (· ≠ "severity"))
    rw [checkRuleValue, checkRuleValue, hextra]
    -- The two tables need not hold the same value under the key, only one that reads the same.
    have hget := Table.get?_reordered hv h "severity"
    generalize Table.get? t "severity" = o at hget
    generalize Table.get? u "severity" = o' at hget
    cases hget with
    | none => rfl
    | some h => simp only [checkSeverity_reordered _ h]

theorem checkRule_reordered (key : String) {v w : Value} (hv : ¬ v.Repeats) (h : v.Reordered w) :
    checkRule key v = checkRule key w := by
  rw [checkRule, checkRule, checkRuleValue_reordered key hv h]

theorem checkRules_alike {m u : Table} (hm : ∀ e ∈ m, ¬ Value.Repeats e.2)
    (h : Table.Alike Value.Reordered m u) : checkRules m = checkRules u := by
  induction h with
  | nil => rfl
  | cons key hvalue hrest ih =>
    obtain ⟨hv, hm⟩ := List.forall_mem_cons.mp hm
    rw [checkRules, checkRules, checkRule_reordered key hv hvalue, ih hm]

/-- In any order the rules have the same problems. -/
theorem problems_checkRules_perm {r r' : Table} (hr : ¬ Value.Repeats (.table r))
    (h : Value.Reordered (.table r) (.table r')) :
    (checkRules r).problems.Perm (checkRules r').problems := by
  obtain ⟨m, hperm, hm, hentries⟩ := Value.exists_alike hr h
  rw [← checkRules_alike hm hentries, problems_checkRules, problems_checkRules]
  exact hperm.flatMap_right _

/-- Whether some entry of the table of rules gives a code a severity. -/
def Proposed (r : Table) (code : String) (severity : Severity) : Prop :=
  ∃ e ∈ r, Gives code severity e

/-- Whether no two entries of the table of rules give a code different severities. -/
def Undisputed (r : Table) (code : String) : Prop :=
  ∀ x y, Proposed r code x → Proposed r code y → x = y

/-- Without a table of rules there is nothing to dispute. -/
theorem undisputed_of_holds {o : Option Value} {r : Table} {code : String}
    (hr : Holds IsTable [] o r) (ho : ∀ r, o = some (.table r) → Undisputed r code) :
    Undisputed r code := by
  cases hr with
  | absent => exact fun x y ⟨e, he, _⟩ => absurd he List.not_mem_nil
  | given hr => exact ho r (congrArg some hr)

theorem gives_reordered {key : String} {v w : Value} (hv : ¬ v.Repeats) (h : v.Reordered w)
    (code : String) (severity : Severity) :
    Gives code severity (key, v) ↔ Gives code severity (key, w) := by
  rw [Gives, Gives, ← value_checkRuleValue key, ← value_checkRuleValue key,
    checkRuleValue_reordered key hv h]

theorem proposed_alike {m u : Table} (hm : ∀ e ∈ m, ¬ Value.Repeats e.2)
    (h : Table.Alike Value.Reordered m u) (code : String) (severity : Severity) :
    Proposed m code severity ↔ Proposed u code severity := by
  induction h with
  | nil => exact Iff.rfl
  | cons key hvalue hrest ih =>
    obtain ⟨hv, hm⟩ := List.forall_mem_cons.mp hm
    rw [Proposed, Proposed, List.exists_mem_cons_iff, List.exists_mem_cons_iff,
      gives_reordered hv hvalue]
    exact or_congr_right (ih hm)

/-- In any order the rules give a code the same severities, though not the same one last. -/
theorem proposed_reordered {r r' : Table} (hr : ¬ Value.Repeats (.table r))
    (h : Value.Reordered (.table r) (.table r')) (code : String) (severity : Severity) :
    Proposed r code severity ↔ Proposed r' code severity := by
  obtain ⟨m, hperm, hm, hentries⟩ := Value.exists_alike hr h
  rw [← proposed_alike hm hentries]
  simp only [Proposed, hperm.mem_iff]

namespace Settles

variable {r r' : Table} {code : String} {fallback x y : Severity}

theorem proposed (h : Settles r code fallback x) :
    Proposed r code x ∨ (∀ other, ¬ Proposed r code other) ∧ x = fallback := by
  rcases h with ⟨front, e, back, rfl, hgives, -⟩ | ⟨hnone, rfl⟩
  · exact .inl ⟨e, List.mem_append_right _ List.mem_cons_self, hgives⟩
  · exact .inr ⟨fun other ⟨e, he, hgives⟩ => hnone e he other hgives, rfl⟩

/-- Without a dispute a code is settled by what is proposed, whatever comes last. -/
theorem eq_of_undisputed (hr : Undisputed r code)
    (hsame : ∀ severity, Proposed r code severity ↔ Proposed r' code severity)
    (hx : Settles r code fallback x) (hy : Settles r' code fallback y) : x = y := by
  rcases hx.proposed with hmine | ⟨hnone, hfallback⟩
  · rcases hy.proposed with hother | ⟨hnone', -⟩
    · exact hr x y hmine ((hsame y).mpr hother)
    · exact absurd ((hsame x).mp hmine) (hnone' x)
  · rcases hy.proposed with hother | ⟨-, hfallback'⟩
    · exact absurd ((hsame y).mpr hother) (hnone y)
    · exact hfallback.trans hfallback'.symm

/-- An entry that comes last settles the code that it gives a severity. -/
theorem eq_of_last {e : String × Value} (h : Settles (r ++ [e]) code fallback x)
    (he : Gives code y e) : x = y := by
  rcases h with ⟨front, last, back, heq, hgives, hlater⟩ | ⟨hnone, -⟩
  · rcases List.eq_nil_or_concat back with rfl | ⟨between, e', rfl⟩
    · obtain ⟨-, hlast⟩ := List.append_inj' heq rfl
      obtain rfl := List.singleton_inj.mp hlast
      have hx := (value_checkRuleValue e.1 e.2 x).mpr hgives.2
      have hy := (value_checkRuleValue e.1 e.2 y).mpr he.2
      exact Option.some.inj (hx.symm.trans hy)
    · rw [List.concat_eq_append, ← List.cons_append, ← List.append_assoc] at heq
      obtain ⟨-, hlast⟩ := List.append_inj' heq rfl
      obtain rfl := List.singleton_inj.mp hlast
      exact absurd he (hlater e (by simp) y)
  · exact absurd he (hnone e (by simp) y)

end Settles

/-! ## Settings in another order -/

section Tables

variable {t u : Table} (ht : ¬ Value.Repeats (.table t)) (h : Value.Reordered (.table t) (.table u))
include ht h

theorem tableProblems_perm {find : Table → List Problem}
    (hfind : ∀ {g g' : Table}, ¬ Value.Repeats (.table g) →
      Value.Reordered (.table g) (.table g') → (find g).Perm (find g')) (name key : String) :
    (tableProblems name find (t.get? key)).Perm (tableProblems name find (u.get? key)) := by
  obtain ⟨hproblems, hvalue⟩ := checkTable_reordered (Table.get?_reordered ht h key) name
  rw [tableProblems, tableProblems, hproblems]
  exact (hfind (not_repeats_checkTable ht name key) hvalue).append_left _

/-- In any order a table has the same problems. -/
theorem problems_check_perm (path : Option Path) :
    (check path t).problems.Perm (check path u).problems := by
  have hget := Table.get?_reordered ht h
  have hchecks : ∀ c ∈ checks, (c.2 (t.get? c.1)).Perm (c.2 (u.get? c.1)) := by
    simp only [checks, List.forall_mem_cons, checkPreset_reordered (hget "preset"),
      checkPatterns_reordered (hget "include"), checkPatterns_reordered (hget "exclude"),
      checkChoice_reordered (hget "output_format"), checkFlag_reordered (hget "show_source"),
      checkChoice_reordered (hget "color"), List.Perm.refl, true_and]
    refine ⟨tableProblems_perm ht h problems_checkRules_perm _ _,
      tableProblems_perm ht h (fun hg h => ?_) _ _, by simp⟩
    rw [checkIgnores_reordered hg h]
  rw [problems_check, problems_check, Checks.run, Checks.run,
    unknownSettings_perm "" knownSettings (Table.keys_perm h)]
  exact (List.Perm.flatMap_left checks hchecks).append_left _

/-- In any order a table gives the same settings, the severities of rules apart. -/
theorem value_check_reordered (path : Option Path) :
    (check path u).value =
      { (check path t).value with severities := (check path u).value.severities } := by
  have hget := Table.get?_reordered ht h
  have hignores := checkIgnores_reordered (not_repeats_checkTable ht "ignores" "ignores")
    (checkTable_reordered (hget "ignores") "ignores").2
  simp only [check, checkPreset_reordered (hget "preset"),
    checkPatterns_reordered (hget "include"), checkPatterns_reordered (hget "exclude"),
    checkChoice_reordered (hget "output_format"), checkFlag_reordered (hget "show_source"),
    checkChoice_reordered (hget "color"), hignores]

/-- A table is accepted in any order, or in none. -/
theorem ofTable_reordered_of_ok {path : Option Path} {s : Settings} (hs : ofTable path t = .ok s) :
    ∃ s', ofTable path u = .ok s' ∧ s' = { s with severities := s'.severities } := by
  obtain ⟨hnone, rfl⟩ := (ofTable_eq_ok_iff path t s).mp hs
  have hperm := problems_check_perm ht h path
  rw [hnone] at hperm
  have haccepted := (ofTable_eq_ok_iff path u _).mpr ⟨hperm.nil_eq.symm, rfl⟩
  exact ⟨_, haccepted, value_check_reordered ht h path⟩

theorem ofTable_reordered_of_error {path : Option Path} {found : List Problem}
    (hfound : ofTable path t = .error found) :
    ∃ found', ofTable path u = .error found' ∧ found.Perm found' := by
  obtain ⟨hne, rfl⟩ := (ofTable_eq_error_iff path t found).mp hfound
  have hperm := problems_check_perm ht h path
  refine ⟨_, (ofTable_eq_error_iff path u _).mpr ⟨fun hnone => hne ?_, rfl⟩, hperm⟩
  rw [hnone] at hperm
  exact hperm.eq_nil

/-- In any order a code that is not disputed has the same severity. -/
theorem severity_of_undisputed {path : Option Path} {s s' : Settings} {code : String}
    (hs : ofTable path t = .ok s) (hs' : ofTable path u = .ok s') (hpreset : s'.preset = s.preset)
    (hcode : ∀ r, t.get? "rules" = some (.table r) → Undisputed r code) :
    s'.severity code = s.severity code := by
  obtain ⟨r, hr, hsettles⟩ := (describes_of_ofTable hs).severities
  obtain ⟨r', hr', hsettles'⟩ := (describes_of_ofTable hs').severities
  have hrules := (checkTable_reordered (Table.get?_reordered ht h "rules") "rules").2
  have hdistinct := not_repeats_checkTable ht "rules" "rules"
  rw [value_checkTable hr] at hrules hdistinct
  rw [value_checkTable hr'] at hrules
  rw [hpreset] at hsettles'
  exact ((hsettles code).eq_of_undisputed (undisputed_of_holds hr hcode)
    (proposed_reordered hdistinct hrules code) (hsettles' code)).symm

end Tables

/-- If every order gives the same settings, each entry of the rules gives the severity that stands:
put last, it decides. -/
theorem severity_of_gives {path : Option Path} {t r : Table} {s : Settings} {code : String}
    {severity : Severity} {e : String × Value}
    (hsame : ∀ u : Table, Value.Reordered (.table t) (.table u) → ofTable path u = .ok s)
    (hr : t.get? "rules" = some (.table r)) (he : e ∈ r) (hgives : Gives code severity e) :
    s.severity code = severity := by
  obtain ⟨front, back, rfl⟩ := List.append_of_mem he
  -- Only the order of the rules changes, so the table stays one of those that give the settings.
  let moved := front ++ back ++ [e]
  have hmoved : Value.Reordered (.table (front ++ e :: back)) (.table moved) :=
    Value.reordered_of_perm (List.perm_middle.trans (List.perm_append_singleton e _).symm)
  have hu : Value.Reordered (.table t) (.table (t.set "rules" (.table moved))) :=
    .table (.refl t) (.set .refl hmoved hr)
  obtain ⟨r', hr', hsettles⟩ := (describes_of_ofTable (hsame _ hu)).severities
  have hlast : moved = r' := by
    rw [← value_checkTable hr' "rules", Table.get?_set_self]
    rfl
  exact (hlast ▸ hsettles code).eq_of_last hgives

/-- Refused in one order, a table is refused in all, for the same problems. Accepted in one order,
it is accepted in all, and gives the same settings but for the severities of codes that are
disputed. So every order gives the same settings exactly if no two entries of the rules give one
code different severities. -/
theorem ofTable_reordered (path : Option Path) (t : Table) (ht : ¬ Value.Repeats (.table t)) :
    (∀ found, ofTable path t = .error found →
      ∀ u : Table, Value.Reordered (.table t) (.table u) →
        ∃ found', ofTable path u = .error found' ∧ found.Perm found') ∧
    ∀ s, ofTable path t = .ok s →
      (∀ u : Table, Value.Reordered (.table t) (.table u) →
        ∃ s', ofTable path u = .ok s' ∧ s' = { s with severities := s'.severities } ∧
          ∀ code, (∀ r, t.get? "rules" = some (.table r) → Undisputed r code) →
            s'.severity code = s.severity code) ∧
      ((∀ u : Table, Value.Reordered (.table t) (.table u) → ofTable path u = .ok s) ↔
        ∀ r, t.get? "rules" = some (.table r) → ∀ code, Undisputed r code) := by
  have hother {s : Settings} (hs : ofTable path t = .ok s) {u : Table}
      (hu : Value.Reordered (.table t) (.table u)) :
      ∃ s', ofTable path u = .ok s' ∧ s' = { s with severities := s'.severities } ∧
        ∀ code, (∀ r, t.get? "rules" = some (.table r) → Undisputed r code) →
          s'.severity code = s.severity code := by
    obtain ⟨s', hs', heq⟩ := ofTable_reordered_of_ok ht hu hs
    have hpreset : s'.preset = s.preset := by rw [heq]
    exact ⟨s', hs', heq, fun code hcode => severity_of_undisputed ht hu hs hs' hpreset hcode⟩
  refine ⟨fun found hfound u hu => ofTable_reordered_of_error ht hu hfound,
    fun s hs => ⟨fun u hu => hother hs hu, ?_, ?_⟩⟩
  · -- Each of the two entries can be put last.
    rintro hsame r hr code x y ⟨a, ha, hx⟩ ⟨b, hb, hy⟩
    exact (severity_of_gives hsame hr ha hx).symm.trans (severity_of_gives hsame hr hb hy)
  · intro hundisputed u hu
    obtain ⟨s', hs', heq, hseverity⟩ := hother hs hu
    have hkeys : s'.severities.map Prod.fst = s.severities.map Prod.fst :=
      (describes_of_ofTable hs').rated.trans (describes_of_ofTable hs).rated.symm
    have hcodes : (s'.severities.map Prod.fst).Nodup := by
      rw [(describes_of_ofTable hs').rated]
      decide
    have hseverities : s'.severities = s.severities :=
      Severities.ext hkeys hcodes fun code _ =>
        hseverity code fun r hr => hundisputed r hr code
    rw [hs', heq, hseverities]

/-- Rules with two entries for one code, in both forms, that give it the same severity. -/
def agreeingRules : Table :=
  [("GPC001", .str "warn"), ("gpc001", .table [("severity", .str "WARN")])]

def agreeingSettings : Table := [("rules", .table agreeingRules), ("preset", .str "none")]

theorem undisputed_agreeingRules (code : String) : Undisputed agreeingRules code := by
  have hwarn {severity : Severity} (h : Proposed agreeingRules code severity) :
      severity = .warn := by
    obtain ⟨e, he, -, hgives⟩ := h
    have hvalue := (value_checkRuleValue e.1 e.2 severity).mpr hgives
    have hall : ∀ e ∈ agreeingRules, (checkRuleValue e.1 e.2).value = some .warn := by
      decide +kernel
    exact Option.some.inj (hvalue.symm.trans (hall e he))
  exact fun x y hx hy => (hwarn hx).trans (hwarn hy).symm

/-- Entries that agree leave the same settings in every order. -/
theorem ofTable_reordered_agreeingSettings :
    ¬ Value.Repeats (.table agreeingSettings) ∧
    ∃ s, s.severity "GPC001" = .warn ∧
      ∀ u : Table, Value.Reordered (.table agreeingSettings) (.table u) →
        ofTable none u = .ok s := by
  have hdistinct : ¬ Value.Repeats (.table agreeingSettings) := by
    simp [Value.not_repeats_table_iff, Value.not_repeats_str, agreeingSettings, agreeingRules,
      Table.keys]
  have haccepted : ofTable none agreeingSettings =
      .ok { preset := .quiet, severities := [("GPC001", .warn)] } := by decide +kernel
  obtain ⟨-, hok⟩ := ofTable_reordered none agreeingSettings hdistinct
  refine ⟨hdistinct, _, rfl, (hok _ haccepted).2.mpr fun r hr => ?_⟩
  obtain rfl : agreeingRules = r := by simpa [agreeingSettings, Table.get?] using hr
  exact undisputed_agreeingRules

/-- Rules with two entries for one code that give it different severities. -/
def disputedRules : Table := [("GPC001", .str "error"), ("gpc001", .str "warn")]

/-- Of entries that disagree the last one decides, so that their order matters. -/
theorem ofTable_disputedRules :
    ¬ Value.Repeats (.table [("rules", .table disputedRules)]) ∧
    Value.Reordered (.table [("rules", .table disputedRules)])
      (.table [("rules", .table disputedRules.reverse)]) ∧
    ofTable none [("rules", .table disputedRules)] = .ok { severities := [("GPC001", .warn)] } ∧
    ofTable none [("rules", .table disputedRules.reverse)] =
      .ok { severities := [("GPC001", .error)] } ∧
    ofTable none [("rules", .table disputedRules)] ≠
      ofTable none [("rules", .table disputedRules.reverse)] := by
  have hwarn : ofTable none [("rules", .table disputedRules)] =
      .ok { severities := [("GPC001", .warn)] } := by decide +kernel
  have herror : ofTable none [("rules", .table disputedRules.reverse)] =
      .ok { severities := [("GPC001", .error)] } := by decide +kernel
  refine ⟨?_, .table (.refl _) (.cons "rules" ?_ .nil), hwarn, herror, ?_⟩
  · simp [Value.not_repeats_table_iff, Value.not_repeats_str, disputedRules, Table.keys]
  · exact Value.reordered_of_perm (List.reverse_perm disputedRules).symm
  · rw [hwarn, herror]
    decide

end Settings
end NodeLint
