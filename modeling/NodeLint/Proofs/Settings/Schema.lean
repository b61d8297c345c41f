import NodeLint.Proofs.Settings.Problems

/-!
# The schema of settings

What tables of settings are accepted, and what settings they give, said without the checks. For each
kind of setting a relation says which values stand for which contents; a setting that is absent has
its default. A code of a rule, and a severity, may be written in any case. Several entries of the
table of rules can be about the same code, and the last one that gives a severity decides.
-/

namespace NodeLint

/-! ## Severities laid over others -/

namespace Severities

theorem get_set (ss : Severities) (code other : String) (s : Severity) :
    (set ss code s).get other = if other = code then s else ss.get other := by
  rw [get, lookup_set]
  split <;> rfl

/-- Setting the severity of a code that has one adds no code. -/
theorem keys_set {ss : Severities} {code : String} (hcode : code ∈ ss.map Prod.fst)
    (s : Severity) : (set ss code s).map Prod.fst = ss.map Prod.fst := by
  induction ss with
  | nil => exact absurd hcode List.not_mem_nil
  | cons p ss ih =>
    obtain ⟨c, old⟩ := p
    rw [set]
    split
    · rfl
    · rename_i hne
      have hrest := (List.mem_cons.mp hcode).resolve_left (Ne.symm hne)
      rw [List.map_cons, List.map_cons, ih hrest]

theorem overlay_append (base first rest : Severities) :
    overlay base (first ++ rest) = overlay (overlay base first) rest :=
  List.foldl_append

theorem keys_overlay {base top : Severities} (htop : ∀ p ∈ top, p.1 ∈ base.map Prod.fst) :
    (overlay base top).map Prod.fst = base.map Prod.fst := by
  induction top generalizing base with
  | nil => rfl
  | cons p top ih =>
    have hset := keys_set (htop p List.mem_cons_self) p.2
    have hrest : ∀ q ∈ top, q.1 ∈ (set base p.1 p.2).map Prod.fst := fun q hq =>
      hset ▸ htop q (List.mem_cons_of_mem p hq)
    exact (ih hrest).trans hset

theorem get_overlay_of_ne (base : Severities) {top : Severities} {code : String}
    (htop : ∀ p ∈ top, p.1 ≠ code) : (overlay base top).get code = base.get code := by
  induction top generalizing base with
  | nil => rfl
  | cons p top ih =>
    have hrest := ih (set base p.1 p.2) fun q hq => htop q (List.mem_cons_of_mem p hq)
    exact hrest.trans (by rw [get_set, if_neg (htop p List.mem_cons_self).symm])

/-- Severities of the same codes are the same if each code has the same. -/
theorem ext {a b : Severities} (hkeys : a.map Prod.fst = b.map Prod.fst)
    (hdistinct : (a.map Prod.fst).Nodup) (hget : ∀ code ∈ a.map Prod.fst, a.get code = b.get code) :
    a = b := by
  induction a generalizing b with
  | nil => exact (List.map_eq_nil_iff.mp hkeys.symm).symm
  | cons p a ih =>
    cases b with
    | nil => exact nomatch hkeys
    | cons q b =>
      obtain ⟨code, x⟩ := p
      obtain ⟨code', y⟩ := q
      obtain ⟨rfl, hrest⟩ := List.cons.inj hkeys
      obtain ⟨hnot, hdistinct⟩ := List.nodup_cons.mp hdistinct
      have hx : x = y := by simpa [get] using hget code List.mem_cons_self
      have htail : a = b := ih hrest hdistinct fun c hc => by
        have hne : (c == code) = false := beq_eq_false_iff_ne.mpr fun h => hnot (h ▸ hc)
        simpa [get, List.lookup_cons, hne] using hget c (List.mem_cons_of_mem _ hc)
      rw [hx, htail]

end Severities

namespace Settings

/-! ## Contents of values -/

/-- Whether a value is one of several words. -/
def IsWord {α : Type} (word : α → String) (v : Value) (a : α) : Prop := v = .str (word a)

def IsTexts (v : Value) (texts : List String) : Prop := v = .list (texts.map .str)

def IsFlag (v : Value) (b : Bool) : Prop := v = .bool b

def IsTable (v : Value) (t : Table) : Prop := v = .table t

/-- Whether a value is a severity, in any case. -/
def IsSeverity (v : Value) (severity : Severity) : Prop :=
  ∃ word, v = .str word ∧ severity.text = Text.lower word

/-- Whether a value is a limit: a number that is not negative, or null for no limit. -/
inductive IsLimit : Value → Option Int → Prop
  | null : IsLimit .null none
  | number {n : Int} : 0 ≤ n → IsLimit (.int n) (some n)

/-- Whether a value lists known codes, in any case, and which ones: these in capitals, each once. -/
def IsCodes (v : Value) (codes : List String) : Prop :=
  ∃ texts, IsTexts v texts ∧ (∀ text ∈ texts, Text.upper text ∈ Rule.codes) ∧
    codes.Pairwise (· < ·) ∧ ∀ code, code ∈ codes ↔ ∃ text ∈ texts, Text.upper text = code

/-- What a setting is: as given, or the default if it is absent. -/
inductive Holds {α : Type} (Means : Value → α → Prop) (fallback : α) : Option Value → α → Prop
  | absent : Holds Means fallback none fallback
  | given {v : Value} {a : α} : Means v a → Holds Means fallback (some v) a

/-- What is true of the default and of all that can be given is true of the setting. -/
@[elab_as_elim]
theorem Holds.elim {α : Type} {Means : Value → α → Prop} {fallback a : α} {o : Option Value}
    {motive : α → Prop} (h : Holds Means fallback o a) (hfallback : motive fallback)
    (hgiven : ∀ v b, Means v b → motive b) : motive a := by
  cases h with
  | absent => exact hfallback
  | given hmeans => exact hgiven _ _ hmeans

/-- Whether a check accepts the values that mean something, as what they mean, and no others. -/
structure Reads {α : Type} (check : Option Value → Checked α) (Means : Value → α → Prop)
    (fallback : α) : Prop where
  absent : check none = ⟨fallback, []⟩
  given : ∀ {v a}, Means v a → check (some v) = ⟨a, []⟩
  refused : ∀ {v}, (∀ a, ¬ Means v a) → (check (some v)).problems ≠ []

namespace Reads

variable {α : Type} {check : Option Value → Checked α} {Means : Value → α → Prop} {fallback : α}

/-- Without problems a setting is as given, or the default. -/
theorem holds (h : Reads check Means fallback) {o : Option Value}
    (hnone : (check o).problems = []) : Holds Means fallback o (check o).value := by
  cases o with
  | none =>
    rw [h.absent]
    exact .absent
  | some v =>
    by_cases hmeans : ∃ a, Means v a
    · obtain ⟨a, ha⟩ := hmeans
      rw [h.given ha]
      exact .given ha
    · exact absurd hnone (h.refused fun a ha => hmeans ⟨a, ha⟩)

theorem problems_eq_nil_iff (h : Reads check Means fallback) (o : Option Value) :
    (check o).problems = [] ↔ ∀ v ∈ o, ∃ a, Means v a := by
  constructor
  · rintro hnone v rfl
    cases h.holds hnone with
    | given ha => exact ⟨_, ha⟩
  · intro hmeans
    cases o with
    | none => rw [h.absent]
    | some v =>
      obtain ⟨a, ha⟩ := hmeans v rfl
      rw [h.given ha]

end Reads

/-! ## What the checks accept -/

theorem text?_eq_some_iff (v : Value) (text : String) : v.text? = some text ↔ v = .str text := by
  cases v <;> simp [Value.text?]

theorem texts?_eq_some_iff (v : Value) (texts : List String) :
    v.texts? = some texts ↔ IsTexts v texts := by
  cases v with
  | list items =>
    rw [Value.texts?, IsTexts, Value.list.injEq]
    induction items generalizing texts with
    | nil => cases texts <;> simp
    | cons item items ih =>
      cases texts with
      | nil => simp [Option.bind_eq_some_iff]
      | cons text texts => simp [Option.bind_eq_some_iff, text?_eq_some_iff, ih]
  | _ => simp [Value.texts?, IsTexts]

theorem reads_checkPatterns (name : String) (fallback : List String) :
    Reads (checkPatterns name fallback) IsTexts fallback where
  absent := rfl
  given h := by simp [checkPatterns, (texts?_eq_some_iff _ _).mpr h]
  refused {v} h := by
    have hnone : v.texts? = none := by
      rw [Option.eq_none_iff_forall_ne_some]
      exact fun texts htexts => h texts ((texts?_eq_some_iff v texts).mp htexts)
    simp [checkPatterns, hnone]

theorem reads_checkFlag (name : String) (fallback : Bool) :
    Reads (checkFlag name fallback) IsFlag fallback where
  absent := rfl
  given := by
    rintro v b rfl
    rfl
  refused {v} h := by
    cases v with
    | bool b => exact absurd rfl (h b)
    | _ => exact List.cons_ne_nil _ _

theorem reads_checkTable (name : String) : Reads (checkTable name) IsTable [] where
  absent := rfl
  given := by
    rintro v t rfl
    rfl
  refused {v} h := by
    cases v with
    | table t => exact absurd rfl (h t)
    | _ => exact List.cons_ne_nil _ _

/-- The word for one of several is found as that one. -/
theorem bind_find?_eq_some_iff {α : Type} {all : List α} {word : α → String}
    (hall : ∀ a, a ∈ all) (hword : ∀ a b, word a = word b → a = b) (v : Value) (a : α) :
    (v.text?.bind fun text => all.find? fun b => word b = text) = some a ↔ IsWord word v a := by
  rw [IsWord, Option.bind_eq_some_iff]
  constructor
  · rintro ⟨text, htext, hfind⟩
    have hworda : word a = text := by simpa using List.find?_some hfind
    rw [(text?_eq_some_iff v text).mp htext, hworda]
  · rintro rfl
    refine ⟨word a, rfl, ?_⟩
    have hsome : (all.find? fun b => word b = word a).isSome = true := by
      rw [List.find?_isSome]
      exact ⟨a, hall a, decide_eq_true rfl⟩
    obtain ⟨b, hb⟩ := Option.isSome_iff_exists.mp hsome
    have hwordb : word b = word a := by simpa using List.find?_some hb
    rw [hb, hword b a hwordb]

theorem reads_checkChoice {α : Type} (name : String) {all : List α} {word : α → String}
    (fallback : α) (hall : ∀ a, a ∈ all) (hword : ∀ a b, word a = word b → a = b) :
    Reads (checkChoice name all word fallback) (IsWord word) fallback where
  absent := rfl
  given {v a} h := by simp only [checkChoice, (bind_find?_eq_some_iff hall hword v a).mpr h]
  refused {v} h := by
    have hnone : (v.text?.bind fun text => all.find? fun b => word b = text) = none := by
      rw [Option.eq_none_iff_forall_ne_some]
      exact fun a ha => h a ((bind_find?_eq_some_iff hall hword v a).mp ha)
    simp [checkChoice, hnone]

theorem reads_checkOutputFormat : Reads
    (checkChoice "output_format" OutputFormat.all OutputFormat.word .text)
    (IsWord OutputFormat.word) .text :=
  reads_checkChoice "output_format" OutputFormat.text (fun a => by cases a <;> decide)
    fun a b => by cases a <;> cases b <;> decide

theorem reads_checkColor : Reads (checkChoice "color" ColorMode.all ColorMode.word .auto)
    (IsWord ColorMode.word) .auto :=
  reads_checkChoice "color" ColorMode.auto (fun a => by cases a <;> decide)
    fun a b => by cases a <;> cases b <;> decide

theorem reads_checkPreset : Reads checkPreset (IsWord Preset.name) .recommended := by
  have hall : ∀ p : Preset, p ∈ Preset.all := fun p => by cases p <;> decide
  have hname : ∀ p q : Preset, p.name = q.name → p = q := fun p q => by
    cases p <;> cases q <;> decide
  refine ⟨rfl, fun {v p} h => ?_, fun {v} h => ?_⟩
  · have hsome : v.text?.bind Preset.ofName? = some p :=
      (bind_find?_eq_some_iff hall hname v p).mpr h
    simp only [checkPreset, hsome]
  · have hnone : v.text?.bind Preset.ofName? = none := by
      rw [Option.eq_none_iff_forall_ne_some]
      exact fun p hp => h p ((bind_find?_eq_some_iff hall hname v p).mp hp)
    simp [checkPreset, hnone]

theorem reads_checkLimit : Reads checkLimit IsLimit none where
  absent := rfl
  given h := by
    cases h with
    | null => rfl
    | number hn => exact if_pos hn
  refused {v} h := by
    cases v with
    | null => exact absurd .null (h none)
    | int n =>
      have hn : ¬ 0 ≤ n := fun hn => h (some n) (.number hn)
      simp [checkLimit, hn]
    | _ => exact List.cons_ne_nil _ _

/-- Items of which each is a text are a list of texts. -/
theorem isTexts_filterMap {items : List Value} (h : ∀ item ∈ items, item.text?.isSome = true) :
    IsTexts (.list items) (items.filterMap Value.text?) := by
  rw [IsTexts, Value.list.injEq]
  induction items with
  | nil => rfl
  | cons item items ih =>
    obtain ⟨text, htext⟩ := Option.isSome_iff_exists.mp (h item List.mem_cons_self)
    rw [List.filterMap_cons_some htext, List.map_cons, ← (text?_eq_some_iff item text).mp htext,
      ← ih fun i hi => h i (List.mem_cons_of_mem item hi)]

theorem reads_checkDisallow : Reads checkDisallow IsCodes [] where
  absent := rfl
  given := by
    rintro v codes ⟨texts, rfl, hknown, hsorted, hcodes⟩
    have htexts : (texts.map Value.str).filterMap Value.text? = texts := by
      rw [List.filterMap_map]
      exact List.filterMap_some
    have hall : (texts.filter fun text => Text.upper text ∈ Rule.codes) = texts :=
      List.filter_eq_self.mpr fun text htext => decide_eq_true (hknown text htext)
    have hset : Text.sortedSet (texts.map Text.upper) = codes :=
      Text.sortedSet_eq hsorted fun code => by rw [hcodes, List.mem_map]
    simpa [checkDisallow, htexts, hall, hset] using hknown
  refused {v} h := by
    cases v with
    | list items =>
      intro hnone
      simp only [checkDisallow, List.append_eq_nil_iff, ite_eq_left_iff, List.cons_ne_nil,
        imp_false, not_not] at hnone
      obtain ⟨hlength, hunknown⟩ := hnone
      let texts := items.filterMap Value.text?
      refine h (Text.sortedSet (texts.map Text.upper)) ⟨texts, ?_, fun text htext => ?_,
        Text.pairwise_sortedSet _, fun code => ?_⟩
      · exact isTexts_filterMap (List.filterMap_length_eq_length.mp hlength)
      · simpa using List.filter_eq_nil_iff.mp hunknown text htext
      · rw [Text.mem_sortedSet, List.mem_map]
    | _ => exact List.cons_ne_nil _ _

/-! ## The table of rules -/

/-- Whether the value of a rule gives it a severity: the value is one, or is a table with one. -/
inductive GivesSeverity (severity : Severity) : Value → Prop
  | word {v : Value} : IsSeverity v severity → GivesSeverity severity v
  | table {o : Table} {v : Value} : o.get? "severity" = some v → IsSeverity v severity →
      GivesSeverity severity (.table o)

/-- Whether an entry of the table of rules gives a code a severity. -/
def Gives (code : String) (severity : Severity) (e : String × Value) : Prop :=
  Text.upper e.1 = code ∧ GivesSeverity severity e.2

/-- Whether an entry of the table of rules is about a known rule and has a severity, or a table that
has nothing else. -/
structure IsRuleEntry (e : String × Value) : Prop where
  code : Text.upper e.1 ∈ Rule.codes
  value : (∃ severity, IsSeverity e.2 severity) ∨
    ∃ o, IsTable e.2 o ∧ (∀ key ∈ o.keys, key = "severity") ∧
      ∀ v ∈ o.get? "severity", ∃ severity, IsSeverity v severity

/-- The severity of a code under a table of rules: that of the last entry that gives one, or what it
is without the table if there is none. -/
def Settles (r : Table) (code : String) (fallback severity : Severity) : Prop :=
  (∃ front e back, r = front ++ e :: back ∧ Gives code severity e ∧
    ∀ later ∈ back, ∀ other, ¬ Gives code other later) ∨
  ((∀ e ∈ r, ∀ other, ¬ Gives code other e) ∧ severity = fallback)

theorem value_checkSeverity (name : String) (v : Value) (severity : Severity) :
    (checkSeverity name v).value = some severity ↔ IsSeverity v severity := by
  have hbind : (v.text?.bind fun s => Severity.ofText? (Text.lower s)) = some severity ↔
      IsSeverity v severity := by
    simp only [Option.bind_eq_some_iff, text?_eq_some_iff, Severity.ofText?_eq_some_iff, IsSeverity]
  rw [← hbind, checkSeverity]
  split <;> simp [*]

theorem problems_checkSeverity (name : String) (v : Value) :
    (checkSeverity name v).problems = [] ↔ ∃ severity, IsSeverity v severity := by
  simp only [← value_checkSeverity name v, checkSeverity]
  split <;> simp

theorem not_isSeverity_table (o : Table) (severity : Severity) :
    ¬ IsSeverity (.table o) severity := by
  rintro ⟨word, hword, -⟩
  exact nomatch hword

theorem givesSeverity_table_iff (o : Table) (severity : Severity) :
    GivesSeverity severity (.table o) ↔
      ∃ v, o.get? "severity" = some v ∧ IsSeverity v severity := by
  constructor
  · intro h
    cases h with
    | word h => exact absurd h (not_isSeverity_table o severity)
    | table hget h => exact ⟨_, hget, h⟩
  · rintro ⟨v, hget, h⟩
    exact .table hget h

/-- A rule is given the severity that its value gives, and nothing by other values. -/
theorem value_checkRuleValue (key : String) (v : Value) (severity : Severity) :
    (checkRuleValue key v).value = some severity ↔ GivesSeverity severity v := by
  have hother {v : Value} (htext : ∀ word, v ≠ .str word) (htable : ∀ o, v ≠ .table o) :
      ¬ GivesSeverity severity v := by
    intro h
    cases h with
    | word h =>
      obtain ⟨word, hword, -⟩ := h
      exact htext word hword
    | table => exact htable _ rfl
  cases v with
  | table o =>
    rw [givesSeverity_table_iff, checkRuleValue]
    cases hget : Table.get? o "severity" with
    | none => simp
    | some v => simp [value_checkSeverity]
  | str text =>
    rw [checkRuleValue, value_checkSeverity]
    constructor
    · exact .word
    · intro h
      cases h with
      | word h => exact h
  | _ => simp [checkRuleValue, hother]

/-- The value of a rule has no problem exactly if it is a severity or a table with nothing else. -/
theorem problems_checkRuleValue (key : String) (v : Value) :
    (checkRuleValue key v).problems = [] ↔
      (∃ severity, IsSeverity v severity) ∨
        ∃ o, IsTable v o ∧ (∀ key ∈ o.keys, key = "severity") ∧
          ∀ v ∈ o.get? "severity", ∃ severity, IsSeverity v severity := by
  cases v with
  | table o =>
    have hextra :
        Text.sortedSet ((Table.keys o).filter fun key => !decide (key = "severity")) = [] ↔
          ∀ key ∈ Table.keys o, key = "severity" := by
      simp [List.eq_nil_iff_forall_not_mem, Text.mem_sortedSet]
    cases hget : Table.get? o "severity" with
    | none => simp [checkRuleValue, hget, hextra, IsTable, not_isSeverity_table]
    | some v =>
      simp [checkRuleValue, hget, hextra, IsTable, not_isSeverity_table, problems_checkSeverity]
  | str text => simp [checkRuleValue, problems_checkSeverity, IsTable]
  | _ => simp [checkRuleValue, IsTable, IsSeverity]

theorem problems_checkRule (e : String × Value) :
    (checkRule e.1 e.2).problems = [] ↔ IsRuleEntry e := by
  have hcode : Rule.codes.contains (Text.upper e.1) = true ↔ Text.upper e.1 ∈ Rule.codes :=
    List.contains_iff_mem
  rw [checkRule]
  split
  · rename_i hknown
    rw [problems_checkRuleValue]
    exact ⟨fun h => ⟨hcode.mp hknown, h⟩, fun h => h.value⟩
  · rename_i hunknown
    constructor
    · exact fun h => absurd h (List.cons_ne_nil _ _)
    · exact fun h => absurd (hcode.mpr h.code) hunknown

/-- An entry about a known code sets the severity that it gives. -/
theorem value_checkRule_of_gives {e : String × Value} (he : IsRuleEntry e) {code : String}
    {severity : Severity} (h : Gives code severity e) :
    (checkRule e.1 e.2).value = [(code, severity)] := by
  have hvalue := (value_checkRuleValue e.1 e.2 severity).mpr h.2
  have hknown : code ∈ Rule.codes := h.1 ▸ he.code
  simp [checkRule, h.1, hknown, hvalue]

/-- An entry sets no other severities. -/
theorem exists_gives_of_mem {e : String × Value} {p : String × Severity}
    (hp : p ∈ (checkRule e.1 e.2).value) : p.1 ∈ Rule.codes ∧ Gives p.1 p.2 e := by
  rw [checkRule] at hp
  split at hp
  · rename_i hknown
    simp only [Option.mem_toList, Option.map_eq_some_iff] at hp
    obtain ⟨severity, hvalue, rfl⟩ := hp
    exact ⟨List.contains_iff_mem.mp hknown, rfl, (value_checkRuleValue e.1 e.2 severity).mp hvalue⟩
  · exact absurd hp List.not_mem_nil

theorem value_checkRules_cons (e : String × Value) (r : Table) :
    (checkRules (e :: r)).value = (checkRule e.1 e.2).value ++ (checkRules r).value :=
  rfl

/-- The rules set severities of known codes only. -/
theorem mem_codes_of_mem {r : Table} {p : String × Severity} (hp : p ∈ (checkRules r).value) :
    p.1 ∈ Rule.codes := by
  induction r with
  | nil => exact absurd hp List.not_mem_nil
  | cons e r ih =>
    rw [value_checkRules_cons, List.mem_append] at hp
    rcases hp with hp | hp
    · exact (exists_gives_of_mem hp).1
    · exact ih hp

/-- Laid over others entry by entry, the severities of the rules leave each code with the last one
that an entry gives. -/
theorem settles_overlay {r : Table} (hr : ∀ e ∈ r, IsRuleEntry e) (base : Severities)
    (code : String) :
    Settles r code (base.get code) ((Severities.overlay base (checkRules r).value).get code) := by
  induction r generalizing base with
  | nil => exact .inr ⟨fun e he => absurd he List.not_mem_nil, rfl⟩
  | cons e r ih =>
    rw [value_checkRules_cons, Severities.overlay_append]
    rcases ih (fun e he => hr e (List.mem_cons_of_mem _ he))
      (Severities.overlay base (checkRule e.1 e.2).value) with
      ⟨front, last, back, rfl, hgives, hlater⟩ | ⟨hlater, hrest⟩
    · exact .inl ⟨e :: front, last, back, rfl, hgives, hlater⟩
    · rw [hrest]
      by_cases hgives : ∃ severity, Gives code severity e
      · obtain ⟨severity, hgives⟩ := hgives
        have hvalue := value_checkRule_of_gives (hr e List.mem_cons_self) hgives
        have hget : (Severities.overlay base [(code, severity)]).get code = severity := by
          rw [Severities.overlay, List.foldl_cons, List.foldl_nil, Severities.get_set, if_pos rfl]
        rw [hvalue, hget]
        exact .inl ⟨[], e, r, rfl, hgives, hlater⟩
      · have hother : ∀ p ∈ (checkRule e.1 e.2).value, p.1 ≠ code := fun p hp hcode =>
          hgives ⟨p.2, hcode ▸ (exists_gives_of_mem hp).2⟩
        rw [Severities.get_overlay_of_ne base hother]
        refine .inr ⟨fun d hd => ?_, rfl⟩
        rcases List.mem_cons.mp hd with rfl | hd
        · exact fun other h => hgives ⟨other, h⟩
        · exact hlater d hd

/-! ## The schema -/

/-- Whether a table is one of settings about pragmas. -/
structure IsIgnores (g : Table) : Prop where
  known : ∀ key ∈ g.keys, key ∈ ["require_reason", "disallow", "max_per_file"]
  disallow : ∀ v ∈ g.get? "disallow", ∃ codes, IsCodes v codes
  maxPerFile : ∀ v ∈ g.get? "max_per_file", ∃ limit, IsLimit v limit
  requireReason : ∀ v ∈ g.get? "require_reason", ∃ b, IsFlag v b

/-- Whether a table is one of settings: it has no other keys, and what it has is of the right
kind. -/
structure IsSettings (t : Table) : Prop where
  known : ∀ key ∈ t.keys, key ∈ ["preset", "include", "exclude", "output_format", "show_source",
    "color", "rules", "ignores"]
  preset : ∀ v ∈ t.get? "preset", ∃ p, IsWord Preset.name v p
  included : ∀ v ∈ t.get? "include", ∃ patterns, IsTexts v patterns
  excluded : ∀ v ∈ t.get? "exclude", ∃ patterns, IsTexts v patterns
  outputFormat : ∀ v ∈ t.get? "output_format", ∃ format, IsWord OutputFormat.word v format
  showSource : ∀ v ∈ t.get? "show_source", ∃ b, IsFlag v b
  color : ∀ v ∈ t.get? "color", ∃ mode, IsWord ColorMode.word v mode
  rules : ∀ v ∈ t.get? "rules", ∃ r, IsTable v r ∧ ∀ e ∈ r, IsRuleEntry e
  ignores : ∀ v ∈ t.get? "ignores", ∃ g, IsTable v g ∧ IsIgnores g

/-- The limits that a table of settings about pragmas sets. -/
structure Governs (g : Table) (limits : Governance) : Prop where
  requireReason : Holds IsFlag true (g.get? "require_reason") limits.requireReason
  disallow : Holds IsCodes [] (g.get? "disallow") limits.disallow
  maxPerFile : Holds IsLimit none (g.get? "max_per_file") limits.maxPerFile

/-- The settings that a table describes. Every rule has one severity. -/
structure Describes (path : Option Path) (t : Table) (s : Settings) : Prop where
  configPath : s.configPath = path
  included : Holds IsTexts defaultIncludes (t.get? "include") s.included
  excluded : Holds IsTexts defaultExcludes (t.get? "exclude") s.excluded
  outputFormat : Holds (IsWord OutputFormat.word) .text (t.get? "output_format") s.outputFormat
  showSource : Holds IsFlag true (t.get? "show_source") s.showSource
  color : Holds (IsWord ColorMode.word) .auto (t.get? "color") s.color
  preset : Holds (IsWord Preset.name) .recommended (t.get? "preset") s.preset
  rated : s.severities.map Prod.fst = Rule.codes
  severities : ∃ r, Holds IsTable [] (t.get? "rules") r ∧
    ∀ code, Settles r code (Severities.get s.preset.severities code) (s.severity code)
  governance : ∃ g, Holds IsTable [] (t.get? "ignores") g ∧ Governs g s.governance

theorem unknownSettings_eq_nil_iff (front : String) (known : List String) (t : Table) :
    unknownSettings front known t = [] ↔ ∀ key ∈ t.keys, key ∈ known := by
  rw [unknownSettings, ← Table.unknownKeys, List.map_eq_nil_iff, List.eq_nil_iff_forall_not_mem]
  simp [Table.mem_unknownKeys]

theorem Checks.run_eq_nil_iff (checks : Checks) (front : String) (known : List String) (t : Table) :
    checks.run front known t = [] ↔
      (∀ key ∈ t.keys, key ∈ known) ∧ ∀ c ∈ checks, c.2 (t.get? c.1) = [] := by
  rw [run, List.append_eq_nil_iff, unknownSettings_eq_nil_iff, List.flatMap_eq_nil_iff]

theorem problems_checkIgnores_eq_nil_iff (g : Table) :
    (checkIgnores g).problems = [] ↔ IsIgnores g := by
  rw [problems_checkIgnores, Checks.run_eq_nil_iff]
  simp only [ignoresChecks, List.forall_mem_cons, reads_checkDisallow.problems_eq_nil_iff,
    reads_checkLimit.problems_eq_nil_iff, (reads_checkFlag _ _).problems_eq_nil_iff]
  constructor
  · rintro ⟨hknown, hdisallow, hlimit, hreason, -⟩
    exact ⟨hknown, hdisallow, hlimit, hreason⟩
  · rintro ⟨hknown, hdisallow, hlimit, hreason⟩
    exact ⟨hknown, hdisallow, hlimit, hreason, by simp⟩

theorem tableProblems_eq_nil_iff (name : String) (find : Table → List Problem)
    (hempty : find [] = []) (o : Option Value) :
    tableProblems name find o = [] ↔ ∀ v ∈ o, ∃ t, IsTable v t ∧ find t = [] := by
  rw [tableProblems, List.append_eq_nil_iff]
  cases o with
  | none => simp [checkTable, hempty]
  | some v => cases v <;> simp [checkTable, IsTable]

/-- A table has no problem exactly if it keeps to the schema. -/
theorem problems_check_eq_nil_iff (path : Option Path) (t : Table) :
    (check path t).problems = [] ↔ IsSettings t := by
  have hrules (o : Option Value) :
      tableProblems "rules" (fun r => (checkRules r).problems) o = [] ↔
        ∀ v ∈ o, ∃ r, IsTable v r ∧ ∀ e ∈ r, IsRuleEntry e := by
    rw [tableProblems_eq_nil_iff "rules" (fun r => (checkRules r).problems) rfl]
    simp only [problems_checkRules, List.flatMap_eq_nil_iff, problems_checkRule]
  have hignores (o : Option Value) :
      tableProblems "ignores" (fun g => (checkIgnores g).problems) o = [] ↔
        ∀ v ∈ o, ∃ g, IsTable v g ∧ IsIgnores g := by
    rw [tableProblems_eq_nil_iff "ignores" (fun g => (checkIgnores g).problems)
      problems_checkIgnores_nil]
    simp only [problems_checkIgnores_eq_nil_iff]
  rw [problems_check, Checks.run_eq_nil_iff]
  simp only [checks, List.forall_mem_cons, reads_checkPreset.problems_eq_nil_iff,
    (reads_checkPatterns _ _).problems_eq_nil_iff, reads_checkOutputFormat.problems_eq_nil_iff,
    (reads_checkFlag _ _).problems_eq_nil_iff, reads_checkColor.problems_eq_nil_iff, hrules,
    hignores]
  constructor
  · rintro ⟨hknown, hpreset, hincluded, hexcluded, hformat, hsource, hcolor, hrules, hignores, -⟩
    exact ⟨hknown, hpreset, hincluded, hexcluded, hformat, hsource, hcolor, hrules, hignores⟩
  · rintro ⟨hknown, hpreset, hincluded, hexcluded, hformat, hsource, hcolor, hrules, hignores⟩
    exact ⟨hknown, hpreset, hincluded, hexcluded, hformat, hsource, hcolor, hrules, hignores,
      by simp⟩

/-- Without problems the checked limits are those that the table sets. -/
theorem governs_checkIgnores {g : Table} (hg : (checkIgnores g).problems = []) :
    Governs g (checkIgnores g).value := by
  rw [problems_checkIgnores, Checks.run_eq_nil_iff] at hg
  simp only [ignoresChecks, List.forall_mem_cons] at hg
  obtain ⟨-, hdisallow, hlimit, hreason, -⟩ := hg
  exact ⟨(reads_checkFlag _ _).holds hreason, reads_checkDisallow.holds hdisallow,
    reads_checkLimit.holds hlimit⟩

/-- Without problems the checked settings are those that the table describes. -/
theorem describes_check {path : Option Path} {t : Table} (ht : (check path t).problems = []) :
    Describes path t (check path t).value := by
  rw [problems_check, Checks.run_eq_nil_iff] at ht
  simp only [checks, List.forall_mem_cons, tableProblems, List.append_eq_nil_iff] at ht
  obtain ⟨-, hpreset, hincluded, hexcluded, hformat, hsource, hcolor, ⟨htable, hrules⟩,
    ⟨htable', hignores⟩, -⟩ := ht
  have hentries : ∀ e ∈ (checkTable "rules" (t.get? "rules")).value, IsRuleEntry e := by
    simpa only [problems_checkRules, List.flatMap_eq_nil_iff, problems_checkRule] using hrules
  have hcodes (p : Preset) : p.severities.map Prod.fst = Rule.codes := by cases p <;> rfl
  exact {
    configPath := rfl
    included := (reads_checkPatterns _ _).holds hincluded
    excluded := (reads_checkPatterns _ _).holds hexcluded
    outputFormat := reads_checkOutputFormat.holds hformat
    showSource := (reads_checkFlag _ _).holds hsource
    color := reads_checkColor.holds hcolor
    preset := reads_checkPreset.holds hpreset
    rated := (Severities.keys_overlay fun p hp => hcodes _ ▸ mem_codes_of_mem hp).trans (hcodes _)
    severities := ⟨_, (reads_checkTable _).holds htable, settles_overlay hentries _⟩
    governance := ⟨_, (reads_checkTable _).holds htable', governs_checkIgnores hignores⟩ }

/-- An accepted table gives the settings that it describes. -/
theorem describes_of_ofTable {path : Option Path} {t : Table} {s : Settings}
    (h : ofTable path t = .ok s) : Describes path t s := by
  obtain ⟨hnone, rfl⟩ := (ofTable_eq_ok_iff path t s).mp h
  exact describes_check hnone

/-- A table is accepted exactly if it keeps to the schema, and then it gives the settings that it
describes. -/
theorem ofTable_eq_ok_iff_isSettings (path : Option Path) (t : Table) :
    ((∃ s, ofTable path t = .ok s) ↔ IsSettings t) ∧
    ∀ s, ofTable path t = .ok s → Describes path t s := by
  refine ⟨?_, fun s => describes_of_ofTable⟩
  simp only [ofTable_eq_ok_iff, exists_and_left, exists_eq', and_true, problems_check_eq_nil_iff]

/-- Settings with several entries for one rule, in both forms and in several cases, and a limit of
any size. -/
def manyEntries : Table := [
  ("rules", .table [
    ("GPC001", .str "ERROR"),
    ("gpc001", .table [("severity", .str "Warn")]),
    ("Gpc001", .table [])]),
  ("ignores", .table [
    ("disallow", .list [.str "gpc001"]),
    ("max_per_file", .int 1000000000000000000000000000000)])]

/-- The last of the entries gives no severity, so that the one before it stands. -/
theorem ofTable_manyEntries :
    ∃ s, ofTable none manyEntries = .ok s ∧ IsSettings manyEntries ∧ Describes none manyEntries s ∧
      s.severity "GPC001" = .warn ∧ s.governance.disallow = ["GPC001"] ∧
      s.governance.maxPerFile = some 1000000000000000000000000000000 := by
  have haccepted : ofTable none manyEntries = .ok {
      severities := [("GPC001", .warn)]
      governance := ⟨true, ["GPC001"], some 1000000000000000000000000000000⟩ } := by decide +kernel
  obtain ⟨hschema, hdescribes⟩ := ofTable_eq_ok_iff_isSettings none manyEntries
  exact ⟨_, haccepted, hschema.mp ⟨_, haccepted⟩, hdescribes _ haccepted, rfl, rfl, rfl⟩

end Settings
end NodeLint
