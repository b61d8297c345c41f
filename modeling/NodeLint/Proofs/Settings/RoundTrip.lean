import NodeLint.Run
import NodeLint.Settings.Report
import NodeLint.Proofs.Path
import NodeLint.Proofs.Settings.Schema

/-!
# Settings from their report

The report of resolved settings groups and names them in its own way. Put back under the keys that
settings are read from, what it shows is a table of settings, and the settings that this table gives
are those that the report was made of. So the report shows everything: settings with the same report
are the same settings.
-/

namespace NodeLint

/-! ## Reports as tables -/

namespace Json

/-- The member of an object under a key, or null. -/
def member (key : String) : Json → Json
  | .obj members => (members.lookup key).getD .null
  | _ => .null

mutual

/-- A document as a value of a setting. -/
def toValue : Json → Value
  | .null => .null
  | .bool b => .bool b
  | .int n => .int n
  | .str s => .str s
  | .arr items => .list (toValues items)
  | .obj members => .table (toEntries members)

def toValues : List Json → List Value
  | [] => []
  | v :: rest => v.toValue :: toValues rest

def toEntries : List (String × Json) → Table
  | [] => []
  | (k, v) :: rest => (k, v.toValue) :: toEntries rest

end

theorem toValues_map_str (texts : List String) : toValues (texts.map .str) = texts.map .str := by
  induction texts with
  | nil => rfl
  | cons text texts ih => simp [toValues, toValue, ih]

theorem toEntries_map_str (codes : List String) (text : String → String) :
    toEntries (codes.map fun code => (code, .str (text code))) =
      codes.map fun code => (code, .str (text code)) := by
  induction codes with
  | nil => rfl
  | cons code codes ih => simp [toEntries, toValue, ih]

end Json

namespace Settings

/-- What a report shows, under the keys that settings are read from. A limit that is null is left
out. -/
def ofReport (report : Json) : Table :=
  let files := report.member "files"
  let output := report.member "output"
  let ignores := report.member "ignores"
  let limit := match ignores.member "max_per_file" with
    | .null => []
    | n => [("max_per_file", n.toValue)]
  [("preset", (report.member "preset").toValue),
   ("include", (files.member "include").toValue),
   ("exclude", (files.member "exclude").toValue),
   ("output_format", (output.member "format").toValue),
   ("show_source", (output.member "show_source").toValue),
   ("color", (output.member "color").toValue),
   ("rules", (report.member "rules").toValue),
   ("ignores", .table ([
     ("require_reason", (ignores.member "require_reason").toValue),
     ("disallow", (ignores.member "disallow").toValue)] ++ limit))]

/-- The limit of settings as an entry, if there is one. -/
def limitEntries : Option Int → Table
  | none => []
  | some n => [("max_per_file", .int n)]

/-- The limits of settings as entries. -/
def ignoresEntries (g : Governance) : Table :=
  [("require_reason", .bool g.requireReason),
   ("disallow", .list ((Text.sortedSet g.disallow).map .str))] ++ limitEntries g.maxPerFile

/-- The table that a report is put back to. -/
theorem ofReport_report (s : Settings) :
    ofReport s.report = [
      ("preset", .str s.preset.name),
      ("include", .list (s.included.map .str)),
      ("exclude", .list (s.excluded.map .str)),
      ("output_format", .str s.outputFormat.word),
      ("show_source", .bool s.showSource),
      ("color", .str s.color.word),
      ("rules", .table ((Text.sortedSet Rule.codes).map fun code =>
        (code, .str (s.severity code).text))),
      ("ignores", .table (ignoresEntries s.governance))] := by
  cases hlimit : s.governance.maxPerFile with
  | none =>
    simp [ofReport, report, jsonRules, jsonTexts, Json.member, Json.toValue, Json.toValues_map_str,
      Json.toEntries_map_str, ignoresEntries, limitEntries, hlimit, List.lookup_cons]
  | some n =>
    simp [ofReport, report, jsonRules, jsonTexts, Json.member, Json.toValue, Json.toValues_map_str,
      Json.toEntries_map_str, ignoresEntries, limitEntries, hlimit, List.lookup_cons]

/-! ## Resolved settings -/

/-- The laws of settings that a table gave: each rule has one severity, codes that may not be
suppressed are known and listed in order, and a limit is not negative. -/
structure IsResolved (s : Settings) : Prop where
  rated : s.severities.map Prod.fst = Rule.codes
  sorted : s.governance.disallow.Pairwise (· < ·)
  known : ∀ code ∈ s.governance.disallow, code ∈ Rule.codes
  limit : ∀ n ∈ s.governance.maxPerFile, 0 ≤ n

theorem Describes.isResolved {path : Option Path} {t : Table} {s : Settings}
    (h : Describes path t s) : s.IsResolved := by
  obtain ⟨g, -, -, hdisallow, hlimit⟩ := h.governance
  refine ⟨h.rated, ?_, ?_, ?_⟩
  · refine hdisallow.elim .nil fun v codes hcodes => ?_
    obtain ⟨texts, -, -, hsorted, -⟩ := hcodes
    exact hsorted
  · refine hdisallow.elim (fun code hcode => absurd hcode List.not_mem_nil) fun v codes hcodes => ?_
    obtain ⟨texts, -, hknown, -, hmem⟩ := hcodes
    intro code hcode
    obtain ⟨text, htext, rfl⟩ := (hmem code).mp hcode
    exact hknown text htext
  · refine hlimit.elim (fun n hn => nomatch hn) fun v limit hmeans n hn => ?_
    cases hmeans with
    | null => exact nomatch hn
    | number hnonneg => exact Option.some.inj hn ▸ hnonneg

end Settings

/-! ## Reading a report back -/

namespace Severities

/-- Severities laid over others for each of several codes. -/
theorem get_overlay_map (base : Severities) (codes : List String) (severity : String → Severity)
    (code : String) :
    (overlay base (codes.map fun c => (c, severity c))).get code =
      if code ∈ codes then severity code else base.get code := by
  induction codes generalizing base with
  | nil => rfl
  | cons c codes ih =>
    have hcons : overlay base ((c :: codes).map fun c => (c, severity c)) =
        overlay (set base c (severity c)) (codes.map fun c => (c, severity c)) := rfl
    rw [hcons, ih, get_set]
    by_cases hc : code = c
    · subst hc
      simp
    · simp [hc]

end Severities

namespace Settings

theorem upper_code {code : String} (hcode : code ∈ Rule.codes) : Text.upper code = code := by
  obtain rfl : code = "GPC001" := List.mem_singleton.mp hcode
  decide

/-- The severities of rules are read as they are written. -/
theorem checkRules_severities (severity : String → Severity) {codes : List String}
    (hcodes : ∀ code ∈ codes, code ∈ Rule.codes) :
    checkRules (codes.map fun code => (code, .str (severity code).text)) =
      ⟨codes.map fun code => (code, severity code), []⟩ := by
  induction codes with
  | nil => rfl
  | cons code codes ih =>
    have hcode := hcodes code List.mem_cons_self
    have hseverity : IsSeverity (.str (severity code).text) (severity code) :=
      ⟨_, rfl, by cases severity code <;> decide⟩
    have hentry : IsRuleEntry (code, .str (severity code).text) :=
      ⟨(upper_code hcode).symm ▸ hcode, .inl ⟨_, hseverity⟩⟩
    have hvalue : (checkRule code (.str (severity code).text)).value = [(code, severity code)] :=
      value_checkRule_of_gives hentry ⟨upper_code hcode, .word hseverity⟩
    have hproblems := (problems_checkRule _).mpr hentry
    rw [List.map_cons, checkRules, ih fun c hc => hcodes c (List.mem_cons_of_mem code hc), hvalue,
      hproblems]
    rfl

/-- The severities of resolved settings are those of the report, laid over any preset. -/
theorem IsResolved.overlay_eq {s : Settings} (hs : s.IsResolved) (p : Preset) :
    Severities.overlay p.severities
      ((Text.sortedSet Rule.codes).map fun code => (code, s.severity code)) = s.severities := by
  have hcodes : p.severities.map Prod.fst = Rule.codes := by cases p <;> rfl
  have hkeys : (Severities.overlay p.severities
      ((Text.sortedSet Rule.codes).map fun code => (code, s.severity code))).map Prod.fst =
        Rule.codes := by
    refine (Severities.keys_overlay fun q hq => ?_).trans hcodes
    obtain ⟨code, hcode, rfl⟩ := List.mem_map.mp hq
    exact hcodes ▸ (Text.mem_sortedSet _ code).mp hcode
  have hdistinct : Rule.codes.Nodup := by decide
  refine Severities.ext (hkeys.trans hs.rated.symm) (hkeys.symm ▸ hdistinct) fun code hcode => ?_
  have hmem : code ∈ Text.sortedSet Rule.codes := (Text.mem_sortedSet _ code).mpr (hkeys ▸ hcode)
  rw [Severities.get_overlay_map, if_pos hmem, severity]

/-- The limits of resolved settings are read as they are reported. -/
theorem IsResolved.checkIgnores_eq {s : Settings} (hs : s.IsResolved) :
    checkIgnores (ignoresEntries s.governance) = ⟨s.governance, []⟩ := by
  have hreason : checkFlag "ignores.require_reason" true (some (.bool s.governance.requireReason)) =
      ⟨s.governance.requireReason, []⟩ := (reads_checkFlag _ _).given rfl
  have hdisallow : checkDisallow
      (some (.list ((Text.sortedSet s.governance.disallow).map .str))) =
        ⟨s.governance.disallow, []⟩ := by
    refine reads_checkDisallow.given ⟨_, rfl, fun text htext => ?_, hs.sorted, fun code => ?_⟩
    · have hknown := hs.known text ((Text.mem_sortedSet _ text).mp htext)
      rwa [upper_code hknown]
    · simp only [Text.mem_sortedSet]
      constructor
      · exact fun hcode => ⟨code, hcode, upper_code (hs.known code hcode)⟩
      · rintro ⟨text, htext, rfl⟩
        rwa [upper_code (hs.known text htext)]
  have hlimit : checkLimit ((limitEntries s.governance.maxPerFile).get? "max_per_file") =
      ⟨s.governance.maxPerFile, []⟩ := by
    cases hn : s.governance.maxPerFile with
    | none => rfl
    | some n => exact reads_checkLimit.given (.number (hs.limit n hn))
  have hunknown : unknownSettings "ignores." knownIgnores (ignoresEntries s.governance) = [] := by
    rw [unknownSettings_eq_nil_iff, ignoresEntries]
    cases s.governance.maxPerFile <;> simp [Table.keys, limitEntries, knownIgnores]
  rw [checkIgnores, hunknown]
  simp only [ignoresEntries, Table.get?, List.cons_append, List.nil_append, List.lookup_cons,
    String.reduceBEq] at hlimit ⊢
  simp only [hreason, hdisallow, hlimit, List.append_nil]

/-- Resolved settings are read back from their report. -/
theorem IsResolved.ofTable_eq_ok {s : Settings} (hs : s.IsResolved) :
    ofTable s.configPath (ofReport s.report) = .ok s := by
  have hpreset : checkPreset (some (.str s.preset.name)) = ⟨s.preset, []⟩ :=
    reads_checkPreset.given rfl
  have hpatterns (name : String) (fallback patterns : List String) :
      checkPatterns name fallback (some (.list (patterns.map .str))) = ⟨patterns, []⟩ :=
    (reads_checkPatterns name fallback).given rfl
  have hformat : checkChoice "output_format" OutputFormat.all OutputFormat.word .text
      (some (.str s.outputFormat.word)) = ⟨s.outputFormat, []⟩ := reads_checkOutputFormat.given rfl
  have hsource : checkFlag "show_source" true (some (.bool s.showSource)) = ⟨s.showSource, []⟩ :=
    (reads_checkFlag _ _).given rfl
  have hcolor : checkChoice "color" ColorMode.all ColorMode.word .auto (some (.str s.color.word)) =
      ⟨s.color, []⟩ := reads_checkColor.given rfl
  have hrules := checkRules_severities s.severity fun code hcode =>
    (Text.mem_sortedSet Rule.codes code).mp hcode
  have hunknown : unknownSettings "" knownSettings (ofReport s.report) = [] := by
    rw [unknownSettings_eq_nil_iff, ofReport_report]
    exact fun key hkey => hkey
  rw [ofReport_report] at hunknown
  rw [ofTable_eq_ok_iff, ofReport_report, check]
  simp only [hunknown, Table.get?, List.lookup_cons, String.reduceBEq, checkTable, hpreset,
    hpatterns, hformat, hsource, hcolor, hrules, hs.checkIgnores_eq, hs.overlay_eq, List.append_nil,
    and_self]

/-- The path of a document is shown in the report. -/
theorem text_configPath_of_report_eq {s s' : Settings} (h : s.report = s'.report) :
    s.configPath.map Path.text = s'.configPath.map Path.text := by
  have hpath := congrArg (Json.member "config_path") h
  simp only [report, Json.member, List.lookup_cons, String.reduceBEq, Option.getD_some] at hpath
  cases hs : s.configPath <;> cases hs' : s'.configPath <;> simp_all [Json.ofString?]

/-- Settings that a table gave are read back from their report as they are. So accepted settings
with the same report are the same, and runs with them are the same. -/
theorem ofTable_ofReport {path : Option Path} {t : Table} {s : Settings}
    (h : ofTable path t = .ok s) :
    ofTable path (ofReport s.report) = .ok s ∧
    ∀ (path' : Option Path) (t' : Table) (s' : Settings), ofTable path' t' = .ok s' →
      (∀ p ∈ path, p.IsRead) → (∀ p ∈ path', p.IsRead) → s'.report = s.report →
        s' = s ∧
          ∀ tree cwd paths, Run.ofPaths tree cwd s' paths = Run.ofPaths tree cwd s paths := by
  have hreads {path : Option Path} {t : Table} {s : Settings} (h : ofTable path t = .ok s) :
      s.configPath = path ∧ ofTable path (ofReport s.report) = .ok s := by
    have hdescribes := describes_of_ofTable h
    refine ⟨hdescribes.configPath, ?_⟩
    rw [← hdescribes.configPath]
    exact hdescribes.isResolved.ofTable_eq_ok
  obtain ⟨hpath, hback⟩ := hreads h
  refine ⟨hback, fun path' t' s' h' hread hread' hreport => ?_⟩
  obtain ⟨hpath', hback'⟩ := hreads h'
  have htext := text_configPath_of_report_eq hreport
  have hsame : path' = path := by
    rw [hpath, hpath'] at htext
    cases path with
    | none => simpa using htext
    | some p =>
      obtain ⟨q, rfl, hq⟩ := Option.map_eq_some_iff.mp htext
      rw [(hread' q rfl).eq_of_text_eq (hread p rfl) hq]
  have heq : s' = s := by
    rw [hsame, hreport, hback] at hback'
    exact (Except.ok.inj hback').symm
  exact ⟨heq, fun tree cwd paths => by rw [heq]⟩

/-- Settings that say no more than they have to. -/
def terse : Table := [
  ("preset", .str "none"),
  ("rules", .table [("gpc001", .str "WARN")]),
  ("ignores", .table [("disallow", .list [.str "gpc001"]), ("max_per_file", .int 3)])]

/-- The same settings with a default spelled out, and the severity in a table. -/
def wordy : Table := [
  ("color", .str "auto"),
  ("rules", .table [("GPC001", .table [("severity", .str "warn")])]),
  ("ignores", .table [
    ("require_reason", .bool true), ("max_per_file", .int 3), ("disallow", .list [.str "GPC001"])]),
  ("preset", .str "none")]

/-- Both are reported alike and are the same settings. -/
theorem ofTable_ofReport_terse :
    let path := some (Path.ofString "/a/pyproject.toml")
    ∃ s s', ofTable path terse = .ok s ∧ ofTable path wordy = .ok s' ∧ s'.report = s.report ∧
      s' = s ∧ ofTable path (ofReport s.report) = .ok s := by
  intro path
  let s : Settings := {
    configPath := path
    preset := .quiet
    severities := [("GPC001", .warn)]
    governance := ⟨true, ["GPC001"], some 3⟩ }
  have hterse : ofTable path terse = .ok s := by decide +kernel
  have hwordy : ofTable path wordy = .ok s := by decide +kernel
  have hread : ∀ p ∈ path, p.IsRead := fun p hp => ⟨"/a/pyproject.toml", Option.some.inj hp⟩
  obtain ⟨hback, hsame⟩ := ofTable_ofReport hterse
  exact ⟨s, s, hterse, hwordy, rfl, (hsame path wordy s hwordy hread hread rfl).1, hback⟩

end Settings
end NodeLint
