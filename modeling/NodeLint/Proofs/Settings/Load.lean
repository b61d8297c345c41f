import NodeLint.CommandLine
import NodeLint.Proofs.Settings.Schema
import NodeLint.Proofs.Utf8

/-!
# How loading settings ends

A document either gives settings that keep to the schema, or is refused for a reason that is
reported together with its path: it cannot be read, it is not a document at all, or its settings
are wrong. There is one gap. The table of this tool is looked for inside the table of all tools, and
nothing makes sure that this one is a table: a document that has another value there is neither
accepted nor refused, and the call breaks off.
-/

namespace NodeLint

namespace Settings

/-! ## Documents -/

/-- Whether bytes hold a document: they encode a text, and the text, with line ends unified, can be
parsed. -/
def IsDocument (bytes : List UInt8) (document : Table) : Prop :=
  ∃ text, bytes = text.flatMap String.utf8EncodeChar ∧
    Toml.parse (Text.unifyNewlines text) = .ok document

/-- The table of this tool in a document; tables that are not there are empty. -/
def IsSection (document settings : Table) : Prop :=
  ∃ tools, Holds IsTable [] (document.get? "tool") tools ∧
    Holds IsTable [] (tools.get? toolName) settings

/-- A document with another value in the place of the table of all tools. -/
def Misshapen (document : Table) : Prop :=
  ∃ v, document.get? "tool" = some v ∧ ∀ tools, ¬ IsTable v tools

/-- The reasons to refuse the document at a path. -/
inductive Refused (t : FileTree) (cwd path : Path) : LoadError → Prop
  | unread {fault : FileFault} (hread : t.read cwd path = .error fault) :
      Refused t cwd path (.unreadable (fault.message path))
  | undecoded {bytes : List UInt8} {fault : Text.Utf8Fault}
      (hread : t.read cwd path = .ok bytes) (hdecode : Text.decodeUtf8 bytes = .error fault) :
      Refused t cwd path (.unreadable fault.message)
  | malformed {text : List Char} {reason : String}
      (hread : t.read cwd path = .ok (text.flatMap String.utf8EncodeChar))
      (hparse : Toml.parse (Text.unifyNewlines text) = .error reason) :
      Refused t cwd path (.invalid reason)
  | noTable {bytes : List UInt8} {document tools : Table} {v : Value}
      (hread : t.read cwd path = .ok bytes) (hdocument : IsDocument bytes document)
      (htools : document.get? "tool" = some (.table tools)) (hv : tools.get? toolName = some v)
      (hshape : ∀ settings, ¬ IsTable v settings) : Refused t cwd path .notTable
  | wrong {bytes : List UInt8} {document settings : Table} (hread : t.read cwd path = .ok bytes)
      (hdocument : IsDocument bytes document) (hsection : IsSection document settings)
      (hsettings : ¬ IsSettings settings) :
      Refused t cwd path (.problems (check (some path) settings).problems)

/-! ## Reading a document -/

variable {t : FileTree} {cwd path : Path} {bytes : List UInt8} {document settings : Table}

theorem decode_eq_ok_iff (bytes : List UInt8) (text : List Char) :
    decode bytes = .ok text ↔
      ∃ raw, bytes = raw.flatMap String.utf8EncodeChar ∧ text = Text.unifyNewlines raw := by
  unfold decode
  cases hdecode : Text.decodeUtf8 bytes with
  | error fault =>
    constructor
    · exact nofun
    · rintro ⟨raw, hraw, -⟩
      exact nomatch hdecode.symm.trans ((Text.decodeUtf8_eq_ok_iff bytes raw).mpr hraw)
  | ok raw =>
    have hraw := (Text.decodeUtf8_eq_ok_iff bytes raw).mp hdecode
    constructor
    · rintro ⟨⟩
      exact ⟨raw, hraw, rfl⟩
    · rintro ⟨raw', hraw', rfl⟩
      have hsame := hdecode.symm.trans ((Text.decodeUtf8_eq_ok_iff bytes raw').mpr hraw')
      rw [Except.ok.inj hsame]

theorem exists_fault_of_decode {e : LoadError} (h : decode bytes = .error e) :
    ∃ fault, Text.decodeUtf8 bytes = .error fault ∧ e = .unreadable fault.message := by
  unfold decode at h
  cases hdecode : Text.decodeUtf8 bytes with
  | error fault =>
    rw [hdecode] at h
    exact ⟨fault, rfl, (Except.error.inj h).symm⟩
  | ok text =>
    rw [hdecode] at h
    exact nomatch h

theorem isDocument_iff (bytes : List UInt8) (document : Table) :
    IsDocument bytes document ↔
      ∃ text, decode bytes = .ok text ∧ Toml.parse text = .ok document := by
  simp only [IsDocument, decode_eq_ok_iff]
  constructor
  · rintro ⟨raw, hraw, hparse⟩
    exact ⟨_, ⟨raw, hraw, rfl⟩, hparse⟩
  · rintro ⟨text, ⟨raw, hraw, rfl⟩, hparse⟩
    exact ⟨raw, hraw, hparse⟩

/-- In a misshapen document there is no looking for the table of this tool. -/
theorem sectionOf_of_misshapen {v : Value} (hv : document.get? "tool" = some v)
    (hshape : ∀ tools, ¬ IsTable v tools) :
    sectionOf document = .error (.toolsShape v.typeName) := by
  rw [sectionOf, hv]
  cases v with
  | table tools => exact absurd rfl (hshape tools)
  | _ => rfl

/-- A document that is not misshapen has a table of this tool, or another value in its place. -/
theorem sectionOf_cases (hdocument : ¬ Misshapen document) :
    (∃ settings, sectionOf document = .ok settings ∧ IsSection document settings) ∨
    sectionOf document = .error .notTable ∧ ∃ tools v,
      document.get? "tool" = some (.table tools) ∧ Table.get? tools toolName = some v ∧
        ∀ settings, ¬ IsTable v settings := by
  cases htool : document.get? "tool" with
  | none =>
    refine .inl ⟨[], by rw [sectionOf, htool], [], ?_, .absent⟩
    rw [htool]
    exact .absent
  | some v =>
    obtain ⟨tools, rfl⟩ : ∃ tools, IsTable v tools := by
      by_contra hshape
      exact hdocument ⟨v, htool, fun tools htools => hshape ⟨tools, htools⟩⟩
    have htools : Holds IsTable [] (document.get? "tool") tools := htool ▸ .given rfl
    cases hname : Table.get? tools toolName with
    | none =>
      refine .inl ⟨[], by rw [sectionOf, htool]; simp only [hname], tools, htools, ?_⟩
      rw [hname]
      exact .absent
    | some w =>
      by_cases hshape : ∃ settings, IsTable w settings
      · obtain ⟨settings, rfl⟩ := hshape
        refine .inl ⟨settings, by rw [sectionOf, htool]; simp only [hname], tools, htools, ?_⟩
        rw [hname]
        exact .given rfl
      · refine .inr ⟨?_, tools, w, rfl, hname, fun settings h => hshape ⟨settings, h⟩⟩
        rw [sectionOf, htool]
        simp only [hname]
        cases w with
        | table settings => exact absurd ⟨settings, rfl⟩ hshape
        | _ => rfl

/-! ## Loading -/

theorem readSection_eq (hread : t.read cwd path = .ok bytes) :
    readSection t cwd path = (do sectionOf (← parseDocument (← decode bytes))) := by
  rw [readSection, hread]
  rfl

theorem readSection_of_isDocument (hread : t.read cwd path = .ok bytes)
    (hdocument : IsDocument bytes document) : readSection t cwd path = sectionOf document := by
  obtain ⟨text, hdecode, hparse⟩ := (isDocument_iff bytes document).mp hdocument
  rw [readSection_eq hread, hdecode]
  simp only [bind, Except.bind, parseDocument, hparse]

theorem load_of_readSection_error {e : LoadError} (h : readSection t cwd path = .error e) :
    load t cwd path = .error e := by
  rw [load, h]
  rfl

/-- A misshapen document breaks loading off. -/
theorem load_of_misshapen (hread : t.read cwd path = .ok bytes)
    (hdocument : IsDocument bytes document) (hshape : Misshapen document) :
    ∃ type, load t cwd path = .error (.toolsShape type) := by
  obtain ⟨v, hv, hv'⟩ := hshape
  refine ⟨v.typeName, load_of_readSection_error ?_⟩
  rw [readSection_of_isDocument hread hdocument, sectionOf_of_misshapen hv hv']

/-- The table of this tool gives settings that keep to the schema, or is refused. -/
theorem load_of_isSection (hread : t.read cwd path = .ok bytes)
    (hdocument : IsDocument bytes document) (hsection : IsSection document settings)
    (hresult : sectionOf document = .ok settings) :
    (∃ s, load t cwd path = .ok s ∧ IsSettings settings ∧ Describes (some path) settings s) ∨
    ∃ e, load t cwd path = .error e ∧ Refused t cwd path e := by
  have hload : load t cwd path = resolve path settings := by
    rw [load, readSection_of_isDocument hread hdocument, hresult]
    rfl
  rw [hload, resolve, ofTable]
  by_cases hproblems : (check (some path) settings).problems = []
  · have hsettings := (problems_check_eq_nil_iff (some path) settings).mp hproblems
    refine .inl ⟨(check (some path) settings).value, ?_, hsettings, describes_check hproblems⟩
    simp only [if_pos hproblems]
  · refine .inr ⟨.problems (check (some path) settings).problems, ?_, ?_⟩
    · simp only [if_neg hproblems]
    · exact .wrong hread hdocument hsection
        (mt (problems_check_eq_nil_iff (some path) settings).mpr hproblems)

/-- Loading gives settings that keep to the schema, or refuses the document, unless the document is
misshapen. -/
theorem load_cases (hshape : ∀ bytes document, t.read cwd path = .ok bytes →
      IsDocument bytes document → ¬ Misshapen document) :
    (∃ settings s, load t cwd path = .ok s ∧ IsSettings settings ∧
      Describes (some path) settings s) ∨
    ∃ e, load t cwd path = .error e ∧ Refused t cwd path e := by
  cases hread : t.read cwd path with
  | error fault =>
    refine .inr ⟨_, load_of_readSection_error ?_, .unread hread⟩
    rw [readSection, hread]
    rfl
  | ok bytes =>
    cases hdecode : decode bytes with
    | error e =>
      obtain ⟨fault, hfault, rfl⟩ := exists_fault_of_decode hdecode
      refine .inr ⟨_, load_of_readSection_error ?_, .undecoded hread hfault⟩
      rw [readSection_eq hread, hdecode]
      rfl
    | ok text =>
      cases hparse : Toml.parse text with
      | error reason =>
        obtain ⟨raw, rfl, rfl⟩ := (decode_eq_ok_iff bytes text).mp hdecode
        refine .inr ⟨_, load_of_readSection_error ?_, .malformed hread hparse⟩
        rw [readSection_eq hread, hdecode]
        simp only [bind, Except.bind, parseDocument, hparse]
      | ok document =>
        have hdocument : IsDocument bytes document :=
          (isDocument_iff bytes document).mpr ⟨text, hdecode, hparse⟩
        rcases sectionOf_cases (hshape bytes document hread hdocument) with
          ⟨settings, hresult, hsection⟩ | ⟨hresult, tools, v, htools, hv, hv'⟩
        · rcases load_of_isSection hread hdocument hsection hresult with ⟨s, hs⟩ | hrefused
          · exact .inl ⟨settings, s, hs⟩
          · exact .inr hrefused
        · refine .inr ⟨_, load_of_readSection_error ?_, .noTable hread hdocument htools hv hv'⟩
          rw [readSection_of_isDocument hread hdocument, hresult]

end Settings

namespace CommandLine

open Settings

/-- The document that settings are loaded from: the one that is named, or the nearest. -/
def source? (h : Host) (configPath : Option Path) : Option Path :=
  configPath <|> findDocument? h.tree h.cwd

/-- Whether settings would be loaded from a misshapen document. -/
def LeadsToMisshapen (h : Host) (configPath : Option Path) : Prop :=
  ∃ path bytes document, source? h configPath = some path ∧ h.tree.read h.cwd path = .ok bytes ∧
    IsDocument bytes document ∧ Misshapen document

variable {h : Host} {configPath : Option Path} {path : Path}

/-- Settings are loaded from the document, and what is wrong with it comes with its path. -/
theorem loadSettings_of_source (hsource : source? h configPath = some path) :
    (loadSettings h configPath).2 = (load h.tree h.cwd path).mapError fun e => (path, e) := by
  rw [loadSettings, ← source?, hsource, load]
  cases hread : readSection h.tree h.cwd path with
  | error e =>
    simp only [hread]
    rfl
  | ok settings =>
    simp only [hread]
    rfl

/-- Without a document the settings are the defaults. -/
theorem loadSettings_of_no_source (hsource : source? h configPath = none) :
    (loadSettings h configPath).2 = .ok {} := by
  rw [loadSettings, ← source?, hsource]

/-- The defaults are what an empty table describes. -/
theorem describes_default : IsSettings [] ∧ Describes none [] {} := by
  have hproblems : (check none []).problems = [] := by decide +kernel
  exact ⟨(problems_check_eq_nil_iff none []).mp hproblems, describes_check hproblems⟩

/-- Settings are loaded, or their document is refused, unless it is misshapen. -/
theorem loadSettings_cases (hshape : ¬ LeadsToMisshapen h configPath) :
    (∃ settings s, (loadSettings h configPath).2 = .ok s ∧ IsSettings settings ∧
      Describes (source? h configPath) settings s) ∨
    ∃ path e, source? h configPath = some path ∧ (loadSettings h configPath).2 = .error (path, e) ∧
      Refused h.tree h.cwd path e := by
  cases hsource : source? h configPath with
  | none => exact .inl ⟨[], {}, loadSettings_of_no_source hsource, describes_default⟩
  | some path =>
    have hwell : ∀ bytes document, h.tree.read h.cwd path = .ok bytes →
        IsDocument bytes document → ¬ Misshapen document :=
      fun bytes document hread hdocument hdocument' =>
        hshape ⟨path, bytes, document, hsource, hread, hdocument, hdocument'⟩
    rw [loadSettings_of_source hsource]
    rcases load_cases hwell with ⟨settings, s, hload, hs⟩ | ⟨e, hload, hrefused⟩
    · exact .inl ⟨settings, s, by rw [hload]; rfl, hs⟩
    · exact .inr ⟨path, e, rfl, by rw [hload]; rfl, hrefused⟩

/-- A misshapen document is neither accepted nor refused. -/
theorem loadSettings_of_misshapen (hshape : LeadsToMisshapen h configPath) :
    ∃ path type, (loadSettings h configPath).2 = .error (path, .toolsShape type) := by
  obtain ⟨path, bytes, document, hsource, hread, hdocument, hshape⟩ := hshape
  obtain ⟨type, hload⟩ := load_of_misshapen hread hdocument hshape
  refine ⟨path, type, ?_⟩
  rw [loadSettings_of_source hsource, hload]
  rfl

/-- A refusal is reported with the path of the document, and the call fails. -/
theorem runWith_of_refused {e : LoadError}
    (hloaded : (loadSettings h configPath).2 = .error (path, e))
    (hrefused : Refused h.tree h.cwd path e) (v : Verbosity) (c : Command) (args : List String) :
    ∃ log, runWith h ⟨configPath, v⟩ c args =
      .exit ⟨1, "", log ++ Outcome.echoed ("Error (" ++ path.text ++ "): " ++ e.message)⟩ := by
  refine ⟨LogLine.render v (loadSettings h configPath).1, ?_⟩
  simp only [runWith, hloaded]
  cases hrefused <;> rfl

/-- Settings are loaded and keep to the schema, or their document is refused for a reason that is
reported with its path, exactly if the document is not misshapen; and it is then that a call does
not break off. -/
theorem loadSettings_ends (h : Host) (configPath : Option Path) :
    let loaded := (loadSettings h configPath).2
    ((∃ settings s, loaded = .ok s ∧ IsSettings settings ∧
        Describes (source? h configPath) settings s) ∨
      (∃ path e, source? h configPath = some path ∧ loaded = .error (path, e) ∧
        Refused h.tree h.cwd path e ∧ ∀ v c args, ∃ log, runWith h ⟨configPath, v⟩ c args =
          .exit ⟨1, "", log ++ Outcome.echoed ("Error (" ++ path.text ++ "): " ++ e.message)⟩) ↔
      ¬ LeadsToMisshapen h configPath) ∧
    ∀ v c args, (∃ cause, runWith h ⟨configPath, v⟩ c args = .brokenOff cause) ↔
      LeadsToMisshapen h configPath := by
  intro loaded
  by_cases hshape : LeadsToMisshapen h configPath
  · obtain ⟨path, type, hloaded⟩ := loadSettings_of_misshapen hshape
    refine ⟨iff_of_false ?_ (not_not_intro hshape), fun v c args => iff_of_true ?_ hshape⟩
    · rintro (⟨settings, s, hs, -⟩ | ⟨path', e, -, he, hrefused, -⟩)
      · exact nomatch hs.symm.trans hloaded
      · obtain ⟨-, rfl⟩ := Prod.mk.inj (Except.error.inj (he.symm.trans hloaded))
        exact nomatch hrefused
    · refine ⟨.toolsShape type, ?_⟩
      simp only [runWith, hloaded]
  · rcases loadSettings_cases hshape with ⟨settings, s, hs⟩ | ⟨path, e, hsource, he, hrefused⟩
    · refine ⟨iff_of_true (.inl ⟨settings, s, hs⟩) hshape, fun v c args => iff_of_false ?_ hshape⟩
      rintro ⟨cause, hcause⟩
      simp only [runWith, hs.1] at hcause
      exact nomatch hcause
    · have hends := runWith_of_refused he hrefused
      refine ⟨iff_of_true (.inr ⟨path, e, hsource, he, hrefused, hends⟩) hshape,
        fun v c args => iff_of_false ?_ hshape⟩
      rintro ⟨cause, hcause⟩
      obtain ⟨log, hexit⟩ := hends v c args
      exact nomatch hexit.symm.trans hcause

/-- A directory whose document has a number in the place of the table of all tools. -/
def numberOfTools : Host where
  tree := {
    entries := [(["pyproject.toml"], .file ("tool = 1\n".toList.flatMap String.utf8EncodeChar))]
    lawful := ⟨by decide, by decide, by decide, by decide⟩ }
  cwd := .absolute []
  program := "graphpc-lint"
  seconds := "0.000"

/-- The document is neither accepted nor refused, and the call breaks off. -/
theorem loadSettings_numberOfTools :
    ¬ ((∃ s, (loadSettings numberOfTools none).2 = .ok s) ∨
      ∃ path e, (loadSettings numberOfTools none).2 = .error (path, e) ∧
        Refused numberOfTools.tree numberOfTools.cwd path e) ∧
    runWith numberOfTools ⟨none, .silent⟩ .lint [] = .brokenOff (.toolsShape "int") := by
  have hloaded : (loadSettings numberOfTools none).2 =
      .error (.absolute ["pyproject.toml"], .toolsShape "int") := by decide +kernel
  refine ⟨?_, by simp only [runWith, hloaded]⟩
  rintro (⟨s, hs⟩ | ⟨path, e, he, hrefused⟩)
  · exact nomatch hs.symm.trans hloaded
  · obtain ⟨-, rfl⟩ := Prod.mk.inj (Except.error.inj (he.symm.trans hloaded))
    exact nomatch hrefused

end CommandLine
end NodeLint
