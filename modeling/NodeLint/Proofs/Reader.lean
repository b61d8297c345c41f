import NodeLint.Source.Lexer

/-!
# Where tokens stand

The reader never loses its place: what is left to read is always an end of the text, and the line
it counts is one more than the number of line feeds behind it. The line feed that ends the text
begins no further line. It follows that the lines of a token are those of its characters, and that
the characters of a string literal are all the characters between its two ends.

Columns are not followed here.
-/

namespace NodeLint.Source

/-- The line feeds of a text that begin a further line. -/
def lineBreaks (cs : List Char) : Nat := cs.dropLast.count '\n'

/-- The line breaks of a text that does not end with its first part. -/
theorem lineBreaks_append (a : List Char) {b : List Char} (hb : b ≠ []) :
    lineBreaks (a ++ b) = a.count '\n' + lineBreaks b := by
  rw [lineBreaks, List.dropLast_append_of_ne_nil hb, List.count_append, lineBreaks]

/-- The line breaks of a text are among its line feeds. -/
theorem lineBreaks_le (cs : List Char) : lineBreaks cs ≤ cs.count '\n' :=
  (List.dropLast_sublist cs).count_le '\n'

/-- The reader stands in the text, and its line is the one it stands in. -/
structure Reader.In (t : SourceText) (r : Reader) : Prop where
  suffix : r.rest <:+ t.chars
  line : r.line + lineBreaks r.rest = 1 + lineBreaks t.chars

/-- A token stands between two places of the text; a string consists of all that is between. -/
def Token.Placed (t : SourceText) (k : Token) : Prop :=
  ∃ first last : Reader, first.In t ∧ last.In t ∧ k.span.line = first.line ∧
    k.span.endLine = last.line ∧ (k.kind = .string → first.rest = k.text.toList ++ last.rest)

/-- What a step may do: it places its tokens, and only the last step ends the text. -/
def Step.Sound (t : SourceText) : Step → Prop
  | .emit ks r => r.In t ∧ ∀ k ∈ ks, k.Placed t ∧ k.kind ≠ .endMarker
  | .stop ks _ => ks.length ≤ 1 ∧ ∀ k ∈ ks, k.Placed t

/-! ## Moving -/

namespace Reader

variable {t : SourceText} {r : Reader}

/-- The reader starts in its text. -/
theorem start_in (t : SourceText) : (start t).In t := ⟨List.suffix_rfl, rfl⟩

/-- Moving takes one character. -/
theorem rest_next (r : Reader) : r.next.rest = r.rest.tail := by
  unfold next
  split <;> simp_all

/-- Moving over characters takes as many. -/
theorem rest_skip (r : Reader) (taken : List Char) :
    (r.skip taken).rest = r.rest.drop taken.length := by
  induction taken generalizing r with
  | nil => rfl
  | cons c taken ih =>
    change (r.next.skip taken).rest = _
    rw [ih, rest_next, List.drop_tail, List.length_cons]

/-- Moving keeps the count of lines. -/
theorem In.next (h : r.In t) : r.next.In t := by
  refine ⟨?_, ?_⟩
  · rw [rest_next]
    exact (List.tail_suffix r.rest).trans h.suffix
  · rw [← h.line]
    unfold Reader.next
    split
    · rfl
    · rename_i hrest
      simp [hrest, lineBreaks]
    · rename_i cs hlast hrest
      cases cs with
      | nil => exact absurd rfl hlast
      | cons c cs =>
        simp [hrest, lineBreaks]
        omega
    · rename_i c cs hlast hfeed hrest
      cases cs with
      | nil => simp [hrest, lineBreaks]
      | cons c' cs =>
        have hc : c ≠ '\n' := by
          intro hc
          subst hc
          exact hfeed rfl
        simp [hrest, lineBreaks, hc]

/-- Moving over characters keeps the count of lines. -/
theorem In.skip (h : r.In t) (taken : List Char) : (r.skip taken).In t := by
  induction taken generalizing r with
  | nil => exact h
  | cons c taken ih => exact ih h.next

/-- The line of a place is counted from the start of the text. -/
theorem In.line_eq (h : r.In t) {before : List Char}
    (hbefore : t.chars = before ++ r.rest) (hrest : r.rest ≠ []) :
    r.line = 1 + before.count '\n' := by
  have hline := h.line
  rw [hbefore, lineBreaks_append before hrest] at hline
  omega

/-- The place does not depend on the lines held, the blocks or the brackets. -/
theorem In.congr {r' : Reader} (h : r.In t) (hrest : r'.rest = r.rest) (hline : r'.line = r.line) :
    r'.In t := by
  refine ⟨hrest ▸ h.suffix, ?_⟩
  rw [hrest, hline]
  exact h.line

/-- The token between two places is placed, if a string is all that is between. -/
theorem In.token {after : Reader} (h : r.In t) (hafter : after.In t) {kind : TokenKind}
    {text : List Char} (hstring : kind = .string → r.rest = text ++ after.rest) :
    (r.token after kind text).Placed t := by
  refine ⟨r, after, h, hafter, rfl, rfl, fun hkind => ?_⟩
  rw [hstring hkind]
  simp [Reader.token]

end Reader

/-! ## Steps -/

section
variable {t : SourceText} {r : Reader}

/-- Behind a backslash the reader stands on the next line. -/
theorem Reader.In.continueLine (h : r.In t) {r' : Reader} (hok : r.continueLine t = .ok r') :
    r'.In t := by
  unfold Reader.continueLine at hok
  split at hok
  · cases hok
  · cases hok
    exact h.next.next
  · cases hok

/-- Measuring an indentation moves the reader behind it. -/
theorem measure_in (cs : List Char) (i : Indentation) (h : r.In t) {i' : Indentation}
    {r' : Reader} (hok : measure t cs i r = .ok (i', r')) : r'.In t := by
  fun_induction measure t cs i r with
  | case1 c cs i r i₁ ih => exact ih (h.next.next.congr rfl rfl) hok
  | case2 c cs i r _ hblank ih => exact ih h.next hok
  | case3 cs i r _ hblank =>
    cases hcontinue : r.continueLine t with
    | error fault => simp [hcontinue, Except.map] at hok
    | ok r₁ =>
      simp only [hcontinue, Except.map, Except.ok.injEq, Prod.mk.injEq] at hok
      exact hok.2 ▸ h.continueLine hcontinue
  | case4 c cs i r _ hblank hslash =>
    cases hok
    exact h
  | case5 i r =>
    cases hok
    exact h

/-- A mark stands where the reader stands. -/
theorem Reader.In.mark (h : r.In t) {kind : TokenKind} (hkind : kind ≠ .string) :
    (r.mark kind).Placed t :=
  h.token h fun heq => absurd heq hkind

/-- A step that emits one token and moves on is sound. -/
theorem Step.Sound.emit_token {after : Reader} (h : r.In t) (hafter : after.In t)
    {kind : TokenKind} {text : List Char} (hend : kind ≠ .endMarker)
    (hstring : kind = .string → r.rest = text ++ after.rest) :
    (Step.emit [r.token after kind text] after).Sound t := by
  refine ⟨hafter, fun k hk => ?_⟩
  rw [List.mem_singleton.mp hk]
  exact ⟨h.token hafter hstring, hend⟩

/-- A step that stops at a fault is sound. -/
theorem Step.Sound.stop_fault (fault : Option LexFault) : (Step.stop [] fault).Sound t :=
  ⟨Nat.zero_le 1, nofun⟩

/-- A step that emits nothing is sound. -/
theorem Step.Sound.emit_nil (h : r.In t) : (Step.emit [] r).Sound t := ⟨h, nofun⟩

/-- Opening and closing blocks leaves the reader where it is. -/
theorem layout_sound (h : r.In t) (levels : Nat × Nat) : (layout t r levels).Sound t := by
  unfold layout
  dsimp only
  split
  · split
    · exact .emit_nil (h.congr rfl rfl)
    · exact .stop_fault _
  · split
    · split
      · exact .stop_fault _
      · split
        · exact .stop_fault _
        · have hr : ({ r with indents := levels :: r.indents, lineStart := false } : Reader).In t :=
            h.congr rfl rfl
          exact .emit_token hr hr nofun nofun
    · split
      · exact .stop_fault _
      · split
        · exact .stop_fault _
        · refine ⟨h.congr rfl rfl, fun k hk => ?_⟩
          rw [(List.mem_replicate.mp hk).2]
          exact ⟨Reader.In.mark (h.congr rfl rfl) nofun, nofun⟩

/-- A line that says nothing is skipped; any other line opens or closes blocks. -/
theorem readLineStart_sound (h : r.In t) : (readLineStart t r).Sound t := by
  unfold readLineStart
  split
  · exact .stop_fault _
  · rename_i i r' hmeasure
    have hr' := measure_in r.rest ⟨0, 0, 0⟩ h hmeasure
    split
    · exact .emit_nil ((hr'.skip _).next.congr rfl rfl)
    · exact .emit_nil ((hr'.skip _).next.congr rfl rfl)
    · split
      · exact layout_sound hr' _
      · exact .emit_nil (hr'.congr rfl rfl)

/-- The end of a line is a token outside brackets, and nothing inside. -/
theorem readNewline_sound {start : Reader} (hstart : start.In t) (h : r.In t) :
    (readNewline start r).Sound t := by
  have hafter : ({ r.next.fresh with lineStart := true } : Reader).In t := h.next.congr rfl rfl
  unfold readNewline
  dsimp only
  split
  · refine ⟨hafter, fun k hk => ?_⟩
    rw [List.mem_singleton.mp hk]
    exact ⟨hstart.token hstart nofun, nofun⟩
  · exact .emit_nil hafter

/-- A word is a name or a fault. -/
theorem readName_sound (h : r.In t) (word : List Char) : (readName r word).Sound t := by
  unfold readName
  dsimp only
  split
  · exact .emit_token h (h.skip word) nofun nofun
  · exact .stop_fault _

/-- A number is a token or a fault. -/
theorem readNumber_sound (h : r.In t) : (readNumber r).Sound t := by
  unfold readNumber
  dsimp only
  split
  · exact .emit_token h (h.skip _) nofun nofun
  · exact .stop_fault _
  · exact .stop_fault _

/-- Anything else is an operator, a stray character or a fault. -/
theorem readOperator_sound (h : r.In t) (c : Char) : (readOperator r c).Sound t := by
  unfold readOperator
  split
  · split
    · exact .emit_token h h.next nofun nofun
    · exact .stop_fault _
  · dsimp only
    split
    · exact .stop_fault _
    · refine .emit_token h ?_ nofun nofun
      exact (h.skip _).congr rfl rfl

/-! ## Strings -/

/-- Growing a scan keeps what it says about the text. -/
theorem grow_eq_ok {front seen rest : List Char}
    {scanned : Except (List Char) (List Char × List Char)}
    (h : shortString.grow front scanned = .ok (seen, rest)) :
    ∃ more, scanned = .ok (more, rest) ∧ seen = front.reverse ++ more := by
  cases scanned with
  | error text => cases h
  | ok found =>
    obtain ⟨more, rest'⟩ := found
    cases h
    exact ⟨more, rfl, rfl⟩

/-- A string in one pair of quotes is the text up to what follows it. -/
theorem shortString_append {quote : Char} (cs : List Char) {seen rest : List Char}
    (h : shortString quote cs = .ok (seen, rest)) : cs = seen ++ rest := by
  fun_induction shortString quote cs generalizing seen with
  | case1 => cases h
  | case2 => cases h
  | case3 c cs ih =>
    obtain ⟨more, hmore, rfl⟩ := grow_eq_ok h
    simp [ih hmore]
  | case4 cs hfeed hslash =>
    cases h
    rfl
  | case5 c cs hfeed hslash hquote ih =>
    obtain ⟨more, hmore, rfl⟩ := grow_eq_ok h
    simp [ih hmore]

/-- A string in three pairs of quotes is the text up to what follows it. -/
theorem longString_append {quote : Char} (cs : List Char) {seen rest : List Char}
    (h : longString quote cs = .ok (seen, rest)) : cs = seen ++ rest := by
  fun_induction longString quote cs generalizing seen with
  | case1 => cases h
  | case2 c cs ih =>
    obtain ⟨more, hmore, rfl⟩ := grow_eq_ok h
    simp [ih hmore]
  | case3 c cs hslash hclose =>
    cases h
    simp only [Bool.and_eq_true, decide_eq_true_eq] at hclose
    obtain ⟨rfl, hquotes⟩ := hclose
    obtain ⟨rest, rfl⟩ := List.isPrefixOf_iff_prefix.mp hquotes
    simp
  | case4 c cs hslash hclose ih =>
    obtain ⟨more, hmore, rfl⟩ := grow_eq_ok h
    simp [ih hmore]

/-- A string is a token of all its characters, or a fault. -/
theorem readString_sound (h : r.In t) {word : List Char} {quote : Char} {body : List Char}
    (hrest : r.rest = word ++ quote :: body) : (readString r word quote body).Sound t := by
  -- the text of the literal is what lies before the rest that the scan leaves
  have hemit (text rest : List Char) (htext : r.rest = text ++ rest) :
      (Step.emit [r.token (r.skip text) .string text] (r.skip text)).Sound t := by
    refine .emit_token h (h.skip text) nofun fun _ => ?_
    rw [Reader.rest_skip, htext, List.drop_left]
  unfold readString
  dsimp only
  by_cases hlong : [quote, quote].isPrefixOf body = true
  · simp only [hlong, if_true]
    obtain ⟨inner, rfl⟩ := List.isPrefixOf_iff_prefix.mp hlong
    split
    · rename_i seen rest hscan
      apply hemit _ rest
      have hinner := longString_append _ hscan
      simp only [List.cons_append, List.nil_append, List.drop_succ_cons, List.drop_zero] at hinner
      simp [hrest, hinner]
    · exact .stop_fault _
  · simp only [hlong]
    split
    · rename_i seen rest hscan
      apply hemit _ rest
      simp [hrest, shortString_append _ hscan]
    · exact .stop_fault _

/-! ## The whole text -/

/-- Inside a line a step is sound. -/
theorem readToken_sound (h : r.In t) : (readToken t r).Sound t := by
  unfold readToken
  dsimp only
  generalize r.rest.takeWhile (fun c => decide (c = ' ') || decide (c = '\t') ||
    decide (c = '\x0c')) = blanks
  have hr := h.skip blanks
  generalize r.skip blanks = r at hr
  split
  · split
    · refine ⟨Nat.le_refl 1, fun k hk => ?_⟩
      rw [List.mem_singleton.mp hk]
      exact hr.mark nofun
    · exact .stop_fault _
  · exact readNewline_sound hr (hr.skip _)
  · exact readNewline_sound hr hr
  · split
    · rename_i r' hcontinue
      exact .emit_nil (hr.continueLine hcontinue)
    · exact .stop_fault _
  · rename_i c cs _ _ _ hrest
    split
    · exact readNumber_sound hr
    · split
      · exact readString_sound hr hrest
      · split
        · split
          · rename_i q body hword
            split
            · refine readString_sound hr ?_
              rw [← hword]
              exact (List.prefix_iff_eq_append.mp (List.takeWhile_prefix isWordChar)).symm
            · exact readName_sound hr _
          · exact readName_sound hr _
        · exact readOperator_sound hr c

/-- Every step of the reader is sound. -/
theorem Reader.step_sound (h : r.In t) : (r.step t).Sound t := by
  unfold Reader.step
  split
  · exact readLineStart_sound h
  · exact readToken_sound h

/-- Reading on adds placed tokens; of these only the last can be the end marker. -/
theorem readFrom_sound (fuel : Nat) (h : r.In t) (acc : Array Token)
    (hacc : ∀ k ∈ acc, k.Placed t ∧ k.kind ≠ .endMarker) :
    (∀ k ∈ (readFrom t fuel r acc).tokens, k.Placed t) ∧
      ∀ n k, (readFrom t fuel r acc).tokens[n]? = some k → k.kind = .endMarker →
        n + 1 = (readFrom t fuel r acc).tokens.size := by
  induction fuel generalizing r acc with
  | zero =>
    refine ⟨fun k hk => (hacc k hk).1, fun n k hn hend => ?_⟩
    exact absurd hend (hacc k (Array.mem_of_getElem? hn)).2
  | succ fuel ih =>
    have hstep := Reader.step_sound h
    simp only [readFrom]
    cases hr : r.step t with
    | emit ks r' =>
      rw [hr] at hstep
      refine ih hstep.1 _ fun k hk => ?_
      rcases Array.mem_append.mp hk with hk | hk
      · exact hacc k hk
      · exact hstep.2 k (List.mem_toArray.mp hk)
    | stop ks fault =>
      rw [hr] at hstep
      refine ⟨fun k hk => ?_, fun n k hn hend => ?_⟩
      · rcases Array.mem_append.mp hk with hk | hk
        · exact (hacc k hk).1
        · exact hstep.2 k (List.mem_toArray.mp hk)
      · have hlast := hstep.1
        dsimp only at hn ⊢
        rw [Array.getElem?_append] at hn
        split at hn
        · exact absurd hend (hacc k (Array.mem_of_getElem? hn)).2
        · have hbound := (Array.getElem?_eq_some_iff.mp hn).1
          simp only [List.size_toArray] at hbound
          simp only [Array.size_append, List.size_toArray]
          omega

end

/-- Every token of a text stands in it. -/
theorem SourceText.tokens_placed (t : SourceText) : ∀ k ∈ t.tokens.tokens, k.Placed t :=
  (readFrom_sound _ (Reader.start_in t) #[] nofun).1

/-- The end marker is the last token. -/
theorem SourceText.endMarker_last (t : SourceText) {n : Nat} {k : Token}
    (hn : t.tokens.tokens[n]? = some k) (hend : k.kind = .endMarker) :
    n + 1 = t.tokens.tokens.size :=
  (readFrom_sound _ (Reader.start_in t) #[] nofun).2 n k hn hend

end NodeLint.Source
