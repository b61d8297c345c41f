import NodeLint.Source.StringLiteral
import NodeLint.Proofs.Utf8

/-!
# Reading formatted strings to the end

A formatted string is read by turns, a stretch of text and then a field. Every turn but the last
takes a character, so that as many turns as there are characters, and one more, are enough: any
greater number of them reads the same. Outside a format the last turn is at the end of the text, and
nothing of a formatted string is left unread.
-/

namespace NodeLint.Source

open Text (bind_eq_ok)

variable {raw inFormat : Bool} {before text cs : List Char} {c c' : Cursor}

/-- A scanner that leaves no more of the text than there was. -/
def StringScan.NeverGrows (f : StringScan) : Prop :=
  ∀ c c', f c = .ok c' → c'.rest.length ≤ c.rest.length

/-- A scanner that leaves less of the text than there was. -/
def StringScan.Advances (f : StringScan) : Prop :=
  ∀ c c', f c = .ok c' → c'.rest.length < c.rest.length

/-- Moving ahead leaves as many characters fewer. -/
theorem Cursor.length_rest_advance (c : Cursor) (n : Nat) :
    (c.advance n).rest.length = c.rest.length - n := by
  simp [Cursor.advance]

/-- Moving ahead leaves no more than there was. -/
theorem Cursor.advance_le (c : Cursor) (n : Nat) : (c.advance n).rest.length ≤ c.rest.length := by
  rw [Cursor.length_rest_advance]
  exact Nat.sub_le _ _

/-! ## Stretches -/

/-- What a stretch leaves of a text: no more than there was, less behind a doubled brace, and outside
a format nothing or an opening brace otherwise. -/
structure Stretch.Leaves (inFormat : Bool) (cs : List Char) (s : Stretch) : Prop where
  le : s.behind.rest.length ≤ cs.length
  lt : s.doubled = true → s.behind.rest.length < cs.length
  stop : inFormat = false → s.doubled = false →
    s.behind.rest = [] ∨ s.behind.rest.head? = some '\x7b'

/-- One character more before a stretch does not matter. -/
theorem Stretch.Leaves.cons {s : Stretch} (h : s.Leaves inFormat cs) (d : Char) :
    s.Leaves inFormat (d :: cs) where
  le := Nat.le_succ_of_le h.le
  lt hdoubled := Nat.lt_succ_of_lt (h.lt hdoubled)
  stop := h.stop

/-- A brace ends a stretch. -/
theorem endStretch_leaves {d : Char} {s : Stretch} (hd : isBrace d = true)
    (h : endStretch inFormat before text d cs = .ok s) : s.Leaves inFormat (d :: cs) := by
  simp only [endStretch] at h
  split at h
  · rename_i hformat
    cases h
    exact ⟨Nat.le_refl _, nofun, fun hout => absurd (hformat.symm.trans hout) nofun⟩
  · split at h
    · cases h
      have htail : cs.tail.length ≤ cs.length := by
        rw [List.length_tail]
        exact Nat.sub_le _ _
      exact ⟨Nat.le_succ_of_le htail, fun _ => Nat.lt_succ_of_le htail, nofun⟩
    · split at h
      · cases h
      · rename_i hclosing
        cases h
        refine ⟨Nat.le_refl _, nofun, fun _ _ => .inr ?_⟩
        simp only [isBrace, Bool.or_eq_true, decide_eq_true_eq, hclosing, or_false] at hd
        rw [hd]
        rfl

/-- Every stretch leaves what it should. -/
theorem readStretch_leaves {part : StretchPart} {s : Stretch}
    (h : readStretch raw inFormat before part text cs = .ok s) : s.Leaves inFormat cs := by
  fun_induction readStretch raw inFormat before part text cs with
  | case1 =>
    cases h
    exact ⟨Nat.le_refl _, nofun, fun _ _ => .inl rfl⟩
  | case2 text d cs hd | case5 text d cs hd => exact endStretch_leaves hd h
  | _ =>
    rename_i ih
    exact (ih h).cons _

/-! ## Fields -/

/-- An expression leaves no more of the text than there was. -/
theorem readExpression_le {s : ExpressionState} {seen : List Char}
    (h : readExpression s seen cs = .ok c) : c.rest.length ≤ cs.length := by
  fun_induction readExpression s seen cs with
  | case1 => cases h
  | case2 => cases h
  | case3 =>
    cases h
    exact Nat.le_refl _
  | case4 _ _ d cs s _ ih => exact Nat.le_succ_of_le (ih h)

/-- Nor does an equals sign. -/
theorem length_skipEquals_le (c : Cursor) : (skipEquals c).rest.length ≤ c.rest.length := by
  unfold skipEquals
  split
  · exact Cursor.advance_le _ _
  · exact Nat.le_refl _

/-- Nor does a conversion. -/
theorem readConversion_neverGrows : StringScan.NeverGrows readConversion := by
  intro c c' h
  unfold readConversion at h
  split at h
  · cases h
  · split at h
    · cases h
      exact Cursor.advance_le _ _
    · cases h
  · cases h
    exact Nat.le_refl _

/-- The brace that closes a field is taken. -/
theorem length_lt_of_close (h : (if c.rest.head? = some '\x7d' then Except.ok (c.advance 1)
    else Except.error braceExpected) = Except.ok c') : c'.rest.length < c.rest.length := by
  split at h
  · rename_i hclose
    cases h
    have hpos : 0 < c.rest.length := by
      rw [List.length_pos_iff]
      intro hnil
      rw [hnil] at hclose
      cases hclose
    rw [Cursor.length_rest_advance]
    omega
  · cases h

/-- A field takes a character at least. -/
theorem readField_advances {check : Field → Option Fault} {line column : Nat} {format : StringScan}
    (hformat : format.NeverGrows) : StringScan.Advances (readField check line column format) := by
  intro c c' h
  simp only [readField] at h
  obtain ⟨stop, hstop, h⟩ := bind_eq_ok.mp h
  have hexpression : stop.rest.length ≤ c.rest.length :=
    Nat.le_trans (readExpression_le hstop) (Cursor.advance_le c 1)
  split at h
  · cases h
  · obtain ⟨d, hconversion, h⟩ := bind_eq_ok.mp h
    have hd : d.rest.length ≤ stop.rest.length :=
      Nat.le_trans (readConversion_neverGrows _ d hconversion) (length_skipEquals_le stop)
    split at h
    · obtain ⟨e, he, h⟩ := bind_eq_ok.mp h
      have hle : e.rest.length ≤ d.rest.length :=
        Nat.le_trans (hformat _ e he) (Cursor.advance_le d 1)
      have hlt := length_lt_of_close h
      omega
    · have hlt := length_lt_of_close h
      omega

/-- A field that is read holds an expression, in which the check has found nothing. -/
theorem readField_checks {check : Field → Option Fault} {line column : Nat} {format : StringScan}
    (h : readField check line column format c = .ok c') :
    ∃ text, text <+: c.rest.drop 1 ∧ text.all isFieldBlank = false ∧
      check (fieldAt line column c.seen text) = none := by
  simp only [readField] at h
  obtain ⟨stop, -, h⟩ := bind_eq_ok.mp h
  split at h
  · cases h
  · rename_i hfault
    simp only [expressionFault?] at hfault
    split at hfault
    · cases hfault
    · rename_i hblank
      exact ⟨_, List.take_prefix _ _, Bool.eq_false_iff.mpr hblank,
        Option.map_eq_none_iff.mp hfault⟩

/-! ## Turns -/

section
variable {field : StringScan} {fuel : Nat}

/-- What the first turn does, if the string is read. -/
theorem readTurns_cases (h : readTurns raw inFormat field (fuel + 1) c = .ok c') :
    ∃ s, readStretch raw inFormat c.seen .plain [] c.rest = .ok s ∧
      ((s.doubled = true ∧ readTurns raw inFormat field fuel s.behind = .ok c') ∨
      (∃ d, field s.behind = .ok d ∧ readTurns raw inFormat field fuel d = .ok c') ∨
      (s.doubled = false ∧ s.behind.rest.head? ≠ some '\x7b' ∧ s.behind = c')) := by
  simp only [readTurns] at h
  obtain ⟨s, hs, h⟩ := bind_eq_ok.mp h
  refine ⟨s, hs, ?_⟩
  split at h
  · cases h
  · split at h
    · rename_i hdoubled
      exact .inl ⟨hdoubled, h⟩
    · rename_i hdoubled
      split at h
      · obtain ⟨d, hd, h⟩ := bind_eq_ok.mp h
        exact .inr (.inl ⟨d, hd, h⟩)
      · rename_i hstop
        cases h
        exact .inr (.inr ⟨by simpa using hdoubled, hstop, rfl⟩)

/-- Any two numbers of turns that are greater than that of the characters read the same. -/
theorem readTurns_congr (hfield : field.Advances) {n m : Nat} (hn : c.rest.length < n)
    (hm : c.rest.length < m) :
    readTurns raw inFormat field n c = readTurns raw inFormat field m c := by
  induction n generalizing c m with
  | zero => exact absurd hn (Nat.not_lt_zero _)
  | succ n ih =>
    cases m with
    | zero => exact absurd hm (Nat.not_lt_zero _)
    | succ m =>
      simp only [readTurns]
      cases hs : readStretch raw inFormat c.seen .plain [] c.rest with
      | error fault => rfl
      | ok s =>
        have hleaves := readStretch_leaves hs
        simp only [bind, Except.bind]
        split
        · rfl
        · split
          · rename_i hdoubled
            have hlt := hleaves.lt hdoubled
            exact ih (by omega) (by omega)
          · split
            · cases hd : field s.behind with
              | error fault => rfl
              | ok d =>
                have hle := hleaves.le
                have hlt := hfield _ d hd
                exact ih (by omega) (by omega)
            · rfl

/-- Turns leave no more of the text than there was, and outside a format nothing. -/
theorem readTurns_end (hfield : field.Advances) (hfuel : c.rest.length < fuel)
    (h : readTurns raw inFormat field fuel c = .ok c') :
    c'.rest.length ≤ c.rest.length ∧ (inFormat = false → c'.rest = []) := by
  induction fuel generalizing c with
  | zero => exact absurd hfuel (Nat.not_lt_zero _)
  | succ fuel ih =>
    obtain ⟨s, hs, ⟨hdoubled, h⟩ | ⟨d, hd, h⟩ | ⟨hdoubled, hstop, rfl⟩⟩ := readTurns_cases h
    · have hlt := (readStretch_leaves hs).lt hdoubled
      obtain ⟨hle, hend⟩ := ih (by omega) h
      exact ⟨by omega, hend⟩
    · have hle := (readStretch_leaves hs).le
      have hlt := hfield _ d hd
      obtain ⟨hle', hend⟩ := ih (by omega) h
      exact ⟨by omega, hend⟩
    · have hleaves := readStretch_leaves hs
      exact ⟨hleaves.le, fun hout => (hleaves.stop hout hdoubled).resolve_right hstop⟩

end

/-! ## Formatted strings -/

section
variable {check : Field → Option Fault} {line column : Nat}

/-- The fields of a formatted string in which fields may be nested so deep. -/
def fieldScan (check : Field → Option Fault) (raw : Bool) (line column : Nat) : Nat → StringScan
  | 0 => fun _ => .error (formatFault "expressions nested too deeply")
  | depth + 1 => readField check line column (readFormatted check raw line column depth true)

/-- A formatted string is read in as many turns as it has characters, and one more. -/
theorem readFormatted_eq (depth : Nat) (c : Cursor) :
    readFormatted check raw line column depth inFormat c =
      readTurns raw inFormat (fieldScan check raw line column depth) (c.rest.length + 1) c := by
  cases depth <;> rfl

/-- A field takes a character at least, however deep the fields in its format are nested. -/
theorem fieldScan_advances (depth : Nat) :
    StringScan.Advances (fieldScan check raw line column depth) := by
  induction depth with
  | zero => nofun
  | succ depth ih =>
    apply readField_advances
    intro c c' h
    rw [readFormatted_eq] at h
    exact (readTurns_end ih (Nat.lt_succ_self _) h).1

/-- With more turns no formatted string is read in another way. -/
theorem readFormatted_eq_readTurns {depth n : Nat} (hn : c.rest.length < n) :
    readFormatted check raw line column depth inFormat c =
      readTurns raw inFormat (fieldScan check raw line column depth) n c := by
  rw [readFormatted_eq]
  exact readTurns_congr (fieldScan_advances depth) (Nat.lt_succ_self _) hn

/-- A formatted string that is read is read to its end. -/
theorem readFormatted_end {depth : Nat}
    (h : readFormatted check raw line column depth false c = .ok c') : c'.rest = [] := by
  rw [readFormatted_eq] at h
  exact (readTurns_end (fieldScan_advances depth) (Nat.lt_succ_self _) h).2 rfl

/-- The place behind the first quotes of a string literal. -/
def Token.opening (k : Token) : Cursor :=
  ⟨(literalParts k.text.toList).1.reverse, (literalParts k.text.toList).2⟩

/-- Nothing is wrong with a formatted literal exactly if turns read it to its end, in whatever
number as long as it is greater than that of the characters. -/
theorem formattedFault?_eq_none_iff {k : Token} (hformatted : hasPrefix 'f' k.text.toList = true)
    {n : Nat} (hn : k.opening.rest.length < n) :
    let raw := hasPrefix 'r' k.text.toList
    formattedFault? check k = none ↔ ∃ c, c.rest = [] ∧
      readTurns raw false (fieldScan check raw k.span.line k.span.column 2) n k.opening = .ok c := by
  intro raw
  have hfault : formattedFault? check k = none ↔ ∃ c,
      readFormatted check raw k.span.line k.span.column 2 false k.opening = .ok c := by
    rw [formattedFault?, hformatted]
    simp only [if_true]
    split
    · rename_i fault herror
      refine iff_of_false nofun fun ⟨c, hc⟩ => ?_
      cases hc.symm.trans herror
    · rename_i c hc
      exact iff_of_true rfl ⟨c, hc⟩
  constructor
  · intro h
    obtain ⟨c, hc⟩ := hfault.mp h
    exact ⟨c, readFormatted_end hc, (readFormatted_eq_readTurns hn).symm.trans hc⟩
  · rintro ⟨c, -, hc⟩
    exact hfault.mpr ⟨c, (readFormatted_eq_readTurns hn).trans hc⟩

end

end NodeLint.Source
