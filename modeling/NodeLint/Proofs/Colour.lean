import NodeLint.Proofs.Gap
import NodeLint.Proofs.Report

/-!
# Reports in colour

A report in colour has control sequences around the words for severities. When all control sequences
are removed, the same is left of it as of the report without colour.

The texts of a diagnostic may hold escape characters themselves, also ones with only a part of a
sequence behind them. No sequence goes on over a space or a line break, and so none reaches from
such a text into the sequences around a severity, or out of them.
-/

namespace NodeLint

namespace Text

/-! ## Control sequences -/

/-- A control sequence: the escape character, a bracket, parameters, and one letter. -/
def IsSequence (cs : List Char) : Prop :=
  ∃ parameters letter, (∀ c ∈ parameters, isAnsiParameter c = true) ∧ letter.isAlpha = true ∧
    cs = escape :: '[' :: (parameters ++ [letter])

theorem IsSequence.exists_cons {cs : List Char} (h : IsSequence cs) :
    ∃ tail, cs = escape :: tail := by
  obtain ⟨parameters, letter, -, -, rfl⟩ := h
  exact ⟨_, rfl⟩

/-- What is left of a text without its control sequences, which are looked for from the left. -/
inductive StripsTo : List Char → List Char → Prop where
  | nil : StripsTo [] []
  | drop {sequence rest out : List Char} (hsequence : IsSequence sequence)
      (h : StripsTo rest out) : StripsTo (sequence ++ rest) out
  | keep {c : Char} {rest out : List Char}
      (hkept : ∀ sequence, IsSequence sequence → ¬ sequence <+: c :: rest)
      (h : StripsTo rest out) : StripsTo (c :: rest) (c :: out)

/-- A letter is no parameter: all parameters come before the letters. -/
theorem isAnsiParameter_of_isAlpha {c : Char} (h : c.isAlpha = true) :
    isAnsiParameter c = false := by
  have hletter : 65 ≤ c.toNat := by
    rcases Bool.or_eq_true_iff.mp h with hupper | hlower
    · exact UInt32.le_iff_toNat_le.mp (of_decide_eq_true hupper).1
    · have hle : 97 ≤ c.toNat :=
        UInt32.le_iff_toNat_le.mp (of_decide_eq_true (Bool.and_eq_true_iff.mp hlower).1)
      omega
  rw [Bool.eq_false_iff]
  intro hparameter
  simp only [isAnsiParameter, Bool.or_eq_true, decide_eq_true_eq, Char.isDigit_iff_toNat]
    at hparameter
  rcases hparameter with (rfl | rfl) | hdigit
  · exact absurd hletter (by decide)
  · exact absurd hletter (by decide)
  · exact absurd hdigit.2 (by change ¬ c.toNat ≤ 57; omega)

/-- What follows a sequence stands behind its last letter. -/
theorem afterSequence?_eq_some_iff (cs rest : List Char) :
    afterSequence? cs = some rest ↔
      ∃ sequence, IsSequence (escape :: sequence) ∧ cs = sequence ++ rest := by
  constructor
  · intro h
    unfold afterSequence? at h
    split at h
    · rename_i cs
      split at h
      · rename_i letter behind hdrop
        split at h
        · rename_i hletter
          obtain rfl : behind = rest := Option.some.inj h
          refine ⟨'[' :: (cs.takeWhile isAnsiParameter ++ [letter]),
            ⟨_, letter, fun c => of_mem_takeWhile, hletter, rfl⟩, ?_⟩
          rw [List.cons_append, List.append_assoc, List.singleton_append, ← hdrop,
            List.takeWhile_append_dropWhile]
        · cases h
      · cases h
    · cases h
  · rintro ⟨sequence, ⟨parameters, letter, hparameters, hletter, hsequence⟩, rfl⟩
    obtain rfl : sequence = '[' :: (parameters ++ [letter]) := (List.cons.inj hsequence).2
    have hdrop : (parameters ++ [letter] ++ rest).dropWhile isAnsiParameter = letter :: rest := by
      rw [List.append_assoc, List.dropWhile_append_of_pos hparameters, List.singleton_append,
        List.dropWhile_cons_of_neg (by simp [isAnsiParameter_of_isAlpha hletter])]
    rw [List.cons_append, afterSequence?, hdrop]
    exact if_pos hletter

/-- Stripping gives a text that is left. -/
theorem stripsTo_stripFrom {fuel : Nat} {cs : List Char} (hfuel : cs.length ≤ fuel) :
    StripsTo cs (stripFrom fuel cs) := by
  induction fuel generalizing cs with
  | zero =>
    rw [List.eq_nil_of_length_eq_zero (Nat.le_zero.mp hfuel)]
    exact .nil
  | succ fuel ih =>
    cases cs with
    | nil => exact .nil
    | cons c cs =>
      have hrest : cs.length ≤ fuel := Nat.le_of_succ_le_succ hfuel
      rw [stripFrom]
      split
      · rename_i hescape
        subst hescape
        split
        · rename_i rest hafter
          obtain ⟨sequence, hsequence, rfl⟩ := (afterSequence?_eq_some_iff _ _).mp hafter
          rw [List.length_append] at hrest
          exact .drop hsequence (ih (by omega))
        · rename_i hafter
          refine .keep ?_ (ih hrest)
          rintro sequence hsequence ⟨rest, h⟩
          obtain ⟨tail, rfl⟩ := hsequence.exists_cons
          have hsome := (afterSequence?_eq_some_iff cs rest).mpr
            ⟨_, hsequence, (List.cons.inj h).2.symm⟩
          rw [hafter] at hsome
          cases hsome
      · rename_i hescape
        refine .keep ?_ (ih hrest)
        rintro sequence hsequence ⟨rest, h⟩
        obtain ⟨tail, rfl⟩ := hsequence.exists_cons
        exact hescape (List.cons.inj h).1.symm

/-- Nothing else is left. -/
theorem StripsTo.eq_stripFrom {cs out : List Char} (h : StripsTo cs out) {fuel : Nat}
    (hfuel : cs.length ≤ fuel) : out = stripFrom fuel cs := by
  induction h generalizing fuel with
  | nil => cases fuel <;> rfl
  | @drop sequence rest out hsequence _ ih =>
    obtain ⟨tail, rfl⟩ := hsequence.exists_cons
    have hafter : afterSequence? (tail ++ rest) = some rest :=
      (afterSequence?_eq_some_iff _ _).mpr ⟨tail, hsequence, rfl⟩
    cases fuel with
    | zero => cases hfuel
    | succ fuel =>
      rw [List.cons_append, List.length_cons, List.length_append] at hfuel
      rw [List.cons_append, stripFrom, if_pos rfl, hafter]
      exact ih (by omega)
  | @keep c rest out hkept _ ih =>
    cases fuel with
    | zero => cases hfuel
    | succ fuel =>
      rw [stripFrom, ih (Nat.le_of_succ_le_succ hfuel)]
      split
      · rename_i hescape
        subst hescape
        have hafter : afterSequence? rest = none := by
          rw [Option.eq_none_iff_forall_ne_some]
          intro behind h
          obtain ⟨tail, hsequence, rfl⟩ := (afterSequence?_eq_some_iff _ _).mp h
          exact hkept _ hsequence ⟨behind, rfl⟩
        rw [hafter]
      · rfl

/-- A text is left of another exactly if stripping gives it. -/
theorem stripsTo_iff (s : String) (out : List Char) :
    StripsTo s.toList out ↔ out = (stripAnsi s).toList := by
  rw [stripAnsi, String.toList_ofList]
  constructor
  · intro h
    exact h.eq_stripFrom (Nat.le_refl _)
  · rintro rfl
    exact stripsTo_stripFrom (Nat.le_refl _)

/-! ## Texts in several parts -/

/-- A character that is in no control sequence. -/
def IsForeign (c : Char) : Prop := ∀ sequence, IsSequence sequence → c ∉ sequence

theorem isForeign_of_ne {c : Char} (hescape : c ≠ escape) (hbracket : c ≠ '[')
    (hparameter : isAnsiParameter c = false) (hletter : c.isAlpha = false) : IsForeign c := by
  rintro sequence ⟨parameters, letter, hparameters, halpha, rfl⟩ hmem
  simp only [List.mem_cons, List.mem_append, List.not_mem_nil, or_false] at hmem
  rcases hmem with h | h | h | rfl
  · exact hescape h
  · exact hbracket h
  · rw [hparameters c h] at hparameter
    cases hparameter
  · rw [halpha] at hletter
    cases hletter

/-- No sequence goes on over a foreign character. -/
theorem StripsTo.append_cons {c : Char} (hc : IsForeign c) {front back out out' : List Char}
    (hfront : StripsTo front out) (hback : StripsTo back out') :
    StripsTo (front ++ c :: back) (out ++ c :: out') := by
  induction hfront with
  | nil =>
    refine .keep ?_ hback
    rintro sequence hsequence ⟨rest, h⟩
    obtain ⟨tail, rfl⟩ := hsequence.exists_cons
    exact hc _ hsequence ((List.cons.inj h).1 ▸ List.mem_cons_self)
  | drop hsequence _ ih =>
    rw [List.append_assoc]
    exact .drop hsequence ih
  | @keep d rest out hkept _ ih =>
    refine .keep ?_ ih
    rintro sequence hsequence ⟨behind, h⟩
    have hsplit : sequence ++ behind = (d :: rest) ++ c :: back := h
    -- A sequence from here on goes over `c`, or it ends before and was there without what follows.
    rcases Source.append_eq_append_cons hsplit with ⟨after, hover, -⟩ | ⟨after, hinside, -⟩
    · exact hc sequence hsequence (hover ▸ List.mem_append_right _ List.mem_cons_self)
    · exact hkept sequence hsequence ⟨after, hinside.symm⟩

theorem isForeign_space : IsForeign ' ' :=
  isForeign_of_ne (by decide) (by decide) (by decide) (by decide)

theorem isForeign_newline : IsForeign '\n' :=
  isForeign_of_ne (by decide) (by decide) (by decide) (by decide)

/-- The parts of a text on both sides of a foreign character are stripped on their own. -/
theorem stripAnsi_append {sep : String} {c : Char} (hsep : sep.toList = [c]) (hc : IsForeign c)
    (front back : String) :
    stripAnsi (front ++ sep ++ back) = stripAnsi front ++ sep ++ stripAnsi back := by
  rw [← String.toList_inj]
  symm
  rw [← stripsTo_iff]
  simp only [String.toList_append, hsep, List.append_assoc, List.singleton_append]
  exact ((stripsTo_iff _ _).mpr rfl).append_cons hc ((stripsTo_iff _ _).mpr rfl)

/-- The lines of a text are stripped one by one. -/
theorem stripAnsi_join (lines : List String) :
    stripAnsi (join "\n" lines) = join "\n" (lines.map stripAnsi) := by
  induction lines with
  | nil => rfl
  | cons line lines ih =>
    cases lines with
    | nil => rfl
    | cons next lines =>
      have hjoin (l n : String) (ls : List String) :
          join "\n" (l :: n :: ls) = l ++ "\n" ++ join "\n" (n :: ls) := rfl
      rw [List.map_cons, List.map_cons, hjoin, hjoin, stripAnsi_append rfl isForeign_newline, ih,
        List.map_cons]

/-! ## Styled words -/

/-- Sequences in front of a text are dropped. -/
theorem StripsTo.flatten_append {sequences : List (List Char)}
    (hsequences : ∀ sequence ∈ sequences, IsSequence sequence) {rest out : List Char}
    (h : StripsTo rest out) : StripsTo (sequences.flatten ++ rest) out := by
  induction sequences with
  | nil => exact h
  | cons sequence sequences ih =>
    rw [List.forall_mem_cons] at hsequences
    rw [List.flatten_cons, List.append_assoc]
    exact .drop hsequences.1 (ih hsequences.2)

/-- A word without escape characters in front of a text is kept. -/
theorem StripsTo.word_append {word : List Char} (hword : escape ∉ word) {rest out : List Char}
    (h : StripsTo rest out) : StripsTo (word ++ rest) (word ++ out) := by
  induction word with
  | nil => exact h
  | cons c word ih =>
    rw [List.mem_cons, not_or] at hword
    refine .keep ?_ (ih hword.2)
    rintro sequence hsequence ⟨behind, h⟩
    obtain ⟨tail, rfl⟩ := hsequence.exists_cons
    exact hword.1 (List.cons.inj h).1

theorem isSequence_code (colour : Colour) : IsSequence colour.code.toList := by
  cases colour with
  | red => exact ⟨['3', '1'], 'm', List.all_eq_true.mp rfl, rfl, rfl⟩
  | yellow => exact ⟨['3', '3'], 'm', List.all_eq_true.mp rfl, rfl, rfl⟩

/-- A styled word stands between control sequences. -/
theorem styled_wraps (colour : Option Colour) (word : String) :
    ∃ before after : List (List Char), (∀ sequence ∈ before ++ after, IsSequence sequence) ∧
      (styled colour word).toList = before.flatten ++ (word.toList ++ after.flatten) := by
  have hbold : IsSequence "\x1b[1m".toList := ⟨['1'], 'm', List.all_eq_true.mp rfl, rfl, rfl⟩
  have hreset : IsSequence "\x1b[0m".toList := ⟨['0'], 'm', List.all_eq_true.mp rfl, rfl, rfl⟩
  cases colour with
  | none =>
    refine ⟨["\x1b[1m".toList], ["\x1b[0m".toList], ?_, ?_⟩
    · exact List.forall_mem_cons.mpr ⟨hbold, List.forall_mem_singleton.mpr hreset⟩
    · simp [styled]
  | some colour =>
    refine ⟨[colour.code.toList, "\x1b[1m".toList], ["\x1b[0m".toList], ?_, ?_⟩
    · exact List.forall_mem_cons.mpr ⟨isSequence_code colour,
        List.forall_mem_cons.mpr ⟨hbold, List.forall_mem_singleton.mpr hreset⟩⟩
    · simp [styled]

/-- Of a styled word the word is left. -/
theorem stripAnsi_styled (colour : Option Colour) {word : String} (hword : escape ∉ word.toList) :
    stripAnsi (styled colour word) = word := by
  obtain ⟨before, after, hsequences, hstyled⟩ := styled_wraps colour word
  rw [List.forall_mem_append] at hsequences
  have hafter : StripsTo after.flatten [] := by
    simpa using StripsTo.nil.flatten_append hsequences.2
  have hword := (hafter.word_append hword).flatten_append hsequences.1
  rw [← hstyled, stripsTo_iff, List.append_nil, String.toList_inj] at hword
  exact hword.symm

end Text

namespace Report

open Text (stripAnsi escape StripsTo)

/-! ## Reports -/

/-- The word for a severity has spaces on both sides. -/
theorem headline_eq (isStyled : Bool) (d : Diagnostic) :
    headline isStyled d =
      (d.file.text ++ ":" ++ toString d.location.line ++ ":" ++ toString d.location.column ++
          ":") ++ " " ++ (if isStyled then Text.styled d.severity.colour? d.severity.label
          else d.severity.label) ++ " " ++ ("[" ++ d.code ++ "] " ++ d.message) := by
  have hcolon : ": " = ":" ++ " " := rfl
  have hbracket : " [" = " " ++ "[" := rfl
  rw [headline, hcolon, hbracket]
  simp only [String.append_assoc]

theorem escape_not_mem_label (severity : Severity) : escape ∉ severity.label.toList := by
  cases severity <;> decide

/-- Stripped, a headline in colour is the one without. -/
theorem stripAnsi_headline (isStyled : Bool) (d : Diagnostic) :
    stripAnsi (headline isStyled d) = stripAnsi (headline false d) := by
  have hlabel := escape_not_mem_label d.severity
  have hword : stripAnsi (if isStyled then Text.styled d.severity.colour? d.severity.label
      else d.severity.label) = d.severity.label := by
    split
    · exact Text.stripAnsi_styled _ hlabel
    · exact Text.stripAnsi_eq_self hlabel
  have hspace (front back : String) :
      stripAnsi (front ++ " " ++ back) = stripAnsi front ++ " " ++ stripAnsi back :=
    Text.stripAnsi_append rfl Text.isForeign_space front back
  simp only [headline_eq, hspace, hword, Text.stripAnsi_eq_self hlabel, Bool.false_eq_true,
    if_false]

/-- Stripped, a report in colour is the one without. -/
theorem stripAnsi_text (s : Settings) (mode : ColorMode) (c : Collection) :
    stripAnsi (text { s with color := mode } c) =
      stripAnsi (text { s with color := .never } c) := by
  have hlines (d : Diagnostic) : (lines { s with color := mode } d).map stripAnsi =
      (lines { s with color := .never } d).map stripAnsi := by
    simp only [lines, List.map_cons]
    rw [stripAnsi_headline, stripAnsi_headline (decide (ColorMode.never ≠ ColorMode.never))]
  rw [text, text, Text.stripAnsi_join, Text.stripAnsi_join, List.map_flatMap, List.map_flatMap]
  simp only [hlines]

/-- Whether the texts that a report shows of a diagnostic are free of escape characters. -/
def Unescaped (d : Diagnostic) : Prop :=
  escape ∉ d.file.text.toList ∧ escape ∉ d.code.toList ∧ escape ∉ d.message.toList ∧
    ∀ line ∈ d.sourceLine, escape ∉ line.toList

theorem escape_not_mem_toString (n : Int) : escape ∉ (toString n).toList := fun h =>
  absurd (Json.isPlain_toString n escape h) (by decide)

/-- The lines for such a diagnostic are free of them without colour. -/
theorem Unescaped.lines {d : Diagnostic} (h : Unescaped d) (s : Settings) :
    ∀ line ∈ Report.lines { s with color := .never } d, escape ∉ line.toList := by
  obtain ⟨hfile, hcode, hmessage, hsource⟩ := h
  have hheadline : escape ∉ (headline false d).toList := by
    simp only [headline, Bool.false_eq_true, if_false, String.toList_append, List.mem_append,
      not_or, hfile, hcode, hmessage, escape_not_mem_toString, escape_not_mem_label, not_false_eq_true,
      true_and, and_true]
    decide
  have hsnippet : ∀ line ∈ snippet d, escape ∉ line.toList := by
    rw [snippet]
    split
    · exact fun line hline => absurd hline List.not_mem_nil
    · rename_i source hsourceLine
      have hcaret : escape ∉ ("    " ++ spaces (d.location.column - 1).toNat ++ "^").toList := by
        simp only [spaces, String.toList_append, String.toList_ofList, List.mem_append, not_or]
        refine ⟨⟨by decide, fun h => ?_⟩, by decide⟩
        exact absurd (List.eq_of_mem_replicate h) (by decide)
      have hline : escape ∉ ("    " ++ source).toList := by
        rw [String.toList_append, List.mem_append, not_or]
        exact ⟨by decide, hsource source hsourceLine⟩
      simp only [List.forall_mem_cons]
      exact ⟨hline, hcaret, by decide, fun line h => absurd h List.not_mem_nil⟩
  rw [Report.lines, List.forall_mem_cons]
  refine ⟨hheadline, ?_⟩
  split
  · exact hsnippet
  · exact fun line hline => absurd hline List.not_mem_nil

/-- Lines without escape characters make a text without. -/
theorem escape_not_mem_join {lines : List String} (h : ∀ line ∈ lines, escape ∉ line.toList) :
    escape ∉ (Text.join "\n" lines).toList := by
  induction lines with
  | nil => exact List.not_mem_nil
  | cons line lines ih =>
    rw [List.forall_mem_cons] at h
    cases lines with
    | nil => exact h.1
    | cons next lines =>
      have hjoin : Text.join "\n" (line :: next :: lines) =
          line ++ "\n" ++ Text.join "\n" (next :: lines) := rfl
      rw [hjoin, String.toList_append, String.toList_append, List.mem_append, List.mem_append,
        not_or, not_or]
      exact ⟨⟨h.1, by decide⟩, ih h.2⟩

/-- When all control sequences are removed from a report, the same is left in every colour mode:
what is left of the report without colour. If the texts of the diagnostics are free of escape
characters, this is the whole report without colour. -/
theorem text_in_colour (s : Settings) (mode : ColorMode) (c : Collection) :
    let coloured := text { s with color := mode } c
    let plain := text { s with color := .never } c
    (∀ out, StripsTo coloured.toList out ↔ out = (stripAnsi plain).toList) ∧
    (∀ out, StripsTo plain.toList out ↔ out = (stripAnsi plain).toList) ∧
    ((∀ d ∈ c.items, Unescaped d) → stripAnsi plain = plain) := by
  intro coloured plain
  refine ⟨fun out => ?_, Text.stripsTo_iff plain, fun h => ?_⟩
  · rw [Text.stripsTo_iff, stripAnsi_text s mode c]
  · apply Text.stripAnsi_eq_self
    apply escape_not_mem_join
    intro line hline
    obtain ⟨d, hd, hline⟩ := List.mem_flatMap.mp hline
    exact (h d (List.mem_mergeSort.mp hd)).lines s line hline

/-- A finding whose texts have no escape characters. -/
def simpleFinding : Diagnostic where
  file := .ofString "a.py"
  location := ⟨6, 2, some 6, some 12⟩
  code := "GPC001"
  message := "undecorated"
  severity := .error
  sourceLine := some " def f(): 0"

/-- A finding with parts of control sequences right before the severity and at the end. -/
def brokenFinding : Diagnostic where
  file := .ofString "a\x1b[3"
  location := ⟨1, 1, none, none⟩
  code := "SYN001"
  message := "\x1b["
  severity := .warn

/-- Of a report in colour the report without colour is left, and it differs from the one in colour.
Parts of sequences in the texts stay what they are. -/
theorem text_in_colour_findings :
    let simple := Collection.add .empty simpleFinding
    let broken := Collection.add .empty brokenFinding
    let never : Settings := { color := .never }
    StripsTo (text {} simple).toList (text never simple).toList ∧
      text {} simple ≠ text never simple ∧
      StripsTo (text {} broken).toList (text never broken).toList := by
  intro simple broken never
  have hsorted (d : Diagnostic) : (Collection.add .empty d).sorted = [d] :=
    List.mergeSort_singleton _
  obtain ⟨hcoloured, -, hplain⟩ := text_in_colour {} .auto simple
  refine ⟨(hcoloured _).mpr ?_, ?_, ((text_in_colour {} .auto broken).1 _).mpr ?_⟩
  · rw [hplain (List.forall_mem_singleton.mpr ⟨by decide +kernel, by decide, by decide, by decide⟩)]
  · simp only [text, simple, hsorted]
    decide +kernel
  · simp only [text, broken, hsorted]
    decide +kernel

end Report
end NodeLint
