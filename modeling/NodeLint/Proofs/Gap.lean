import NodeLint.Proofs.Lines

/-!
# What stands between tokens

Between two tokens there are only blanks, line ends, comments, and backslashes that continue a line.
The lines of tokens therefore follow one another, and wherever a line of a program begins with
anything else, a token touches that line.

Each step of the reader takes a gap of this kind and at most one token behind it. What holds of a
whole text follows by induction over the steps.
-/

namespace NodeLint.Source

/-- A character of a text of two parts stands in one of them. -/
theorem append_eq_append_cons {front rest a b : List Char} {c : Char}
    (h : front ++ rest = a ++ c :: b) :
    (∃ b', front = a ++ c :: b' ∧ b = b' ++ rest) ∨
      ∃ a', a = front ++ a' ∧ rest = a' ++ c :: b := by
  rcases List.append_eq_append_iff.mp h with ⟨a', ha, hrest⟩ | ⟨more, hfront, hmore⟩
  · exact Or.inr ⟨a', ha, hrest⟩
  · cases more with
    | nil => exact Or.inr ⟨[], by simpa using hfront.symm, hmore.symm⟩
    | cons d b' =>
      obtain ⟨rfl, rfl⟩ := List.cons.inj hmore
      exact Or.inl ⟨b', hfront, rfl⟩

/-! ## Gaps -/

/-- A text that no token takes part of: blanks, line feeds, backslashes that continue a line, and
comments. -/
inductive Gap : List Char → Prop where
  | nil : Gap []
  | blank {c : Char} {cs : List Char} (hc : c = ' ' ∨ c = '\t' ∨ c = '\x0c' ∨ c = '\n')
      (hcs : Gap cs) : Gap (c :: cs)
  | continued {cs : List Char} (hcs : Gap cs) : Gap ('\\' :: '\n' :: cs)
  | comment {body cs : List Char} (hbody : '\n' ∉ body) (hcs : Gap cs) : Gap ('#' :: (body ++ cs))

namespace Gap

/-- Two adjacent gaps make one. -/
theorem append {a b : List Char} (ha : Gap a) (hb : Gap b) : Gap (a ++ b) := by
  induction ha with
  | nil => exact hb
  | blank hc _ ih => exact .blank hc ih
  | continued _ ih => exact .continued ih
  | comment hbody _ ih =>
    rw [List.cons_append, List.append_assoc]
    exact .comment hbody ih

/-- Blanks inside a line are a gap. -/
theorem of_blanks {cs : List Char} (h : ∀ c ∈ cs, c = ' ' ∨ c = '\t' ∨ c = '\x0c') : Gap cs := by
  induction cs with
  | nil => exact .nil
  | cons c cs ih =>
    have hc := h c List.mem_cons_self
    have hcs := ih fun d hd => h d (List.mem_cons_of_mem c hd)
    exact .blank (hc.imp_right (Or.imp_right Or.inl)) hcs

/-- From a comment or a line feed on, the rest of the line is a gap. -/
theorem lineEnd {c : Char} {cs : List Char} (hc : c = '#' ∨ c = '\n') :
    ∃ gap, Gap gap ∧ c :: cs = gap ++ ((c :: cs).dropWhile (· ≠ '\n')).tail := by
  rcases hc with rfl | rfl
  · have hsplit := List.takeWhile_append_dropWhile (p := fun c => decide (c ≠ '\n')) (l := cs)
    have hbody : '\n' ∉ cs.takeWhile (· ≠ '\n') := by
      intro hmem
      simpa using Text.of_mem_takeWhile hmem
    have hdrop : ('#' :: cs).dropWhile (· ≠ '\n') = cs.dropWhile (· ≠ '\n') :=
      List.dropWhile_cons_of_pos (by decide)
    cases hrest : cs.dropWhile (· ≠ '\n') with
    | nil =>
      refine ⟨'#' :: (cs.takeWhile (· ≠ '\n') ++ []), .comment hbody .nil, ?_⟩
      rw [hdrop, hrest, List.tail_nil, List.append_nil, List.append_nil]
      rw [hrest, List.append_nil] at hsplit
      rw [hsplit]
    | cons d rest =>
      obtain rfl : d = '\n' := by
        simpa using Text.head?_dropWhile (congrArg List.head? hrest)
      have hfeed : Gap ['\n'] := .blank (by simp) .nil
      refine ⟨'#' :: (cs.takeWhile (· ≠ '\n') ++ ['\n']), .comment hbody hfeed, ?_⟩
      rw [hdrop, hrest, List.tail_cons, List.cons_append, List.append_assoc, List.singleton_append,
        ← hrest, hsplit]
  · exact ⟨['\n'], .blank (by simp) .nil, rfl⟩

/-- A character of a gap that is no blank begins a comment, continues its line, or stands behind a
hash sign in its line. -/
theorem cases_of_mem {a b : List Char} {c : Char} (h : Gap (a ++ c :: b))
    (hc : ¬ (c = ' ' ∨ c = '\t' ∨ c = '\x0c' ∨ c = '\n')) :
    c = '#' ∨ (c = '\\' ∧ b.head? = some '\n') ∨ ∃ a₁ a₂, a = a₁ ++ '#' :: a₂ ∧ '\n' ∉ a₂ := by
  generalize hcs : a ++ c :: b = cs at h
  induction h generalizing a with
  | nil => simp at hcs
  | blank hd _ ih =>
    cases a with
    | nil =>
      obtain ⟨rfl, -⟩ := List.cons.inj hcs
      exact absurd hd hc
    | cons d a =>
      obtain ⟨-, hcs⟩ := List.cons.inj hcs
      rcases ih hcs with hhash | hslash | ⟨a₁, a₂, rfl, ha₂⟩
      · exact Or.inl hhash
      · exact Or.inr (Or.inl hslash)
      · exact Or.inr (Or.inr ⟨d :: a₁, a₂, rfl, ha₂⟩)
  | continued _ ih =>
    match a with
    | [] =>
      obtain ⟨rfl, rfl⟩ := List.cons.inj hcs
      exact Or.inr (Or.inl ⟨rfl, rfl⟩)
    | [d] =>
      obtain ⟨-, hcs⟩ := List.cons.inj hcs
      obtain ⟨rfl, -⟩ := List.cons.inj hcs
      simp at hc
    | d :: e :: a =>
      obtain ⟨-, hcs⟩ := List.cons.inj hcs
      obtain ⟨-, hcs⟩ := List.cons.inj hcs
      rcases ih hcs with hhash | hslash | ⟨a₁, a₂, rfl, ha₂⟩
      · exact Or.inl hhash
      · exact Or.inr (Or.inl hslash)
      · exact Or.inr (Or.inr ⟨d :: e :: a₁, a₂, rfl, ha₂⟩)
  | @comment body cs hbody _ ih =>
    cases a with
    | nil =>
      obtain ⟨rfl, -⟩ := List.cons.inj hcs
      exact Or.inl rfl
    | cons d a =>
      obtain ⟨rfl, htail⟩ := List.cons.inj hcs
      rcases append_eq_append_cons htail.symm with ⟨b', rfl, -⟩ | ⟨a', rfl, hmore⟩
      · -- the character stands in the comment itself
        refine Or.inr (Or.inr ⟨[], a, rfl, ?_⟩)
        intro hmem
        exact hbody (List.mem_append_left _ hmem)
      · rcases ih hmore.symm with hhash | hslash | ⟨a₁, a₂, rfl, ha₂⟩
        · exact Or.inl hhash
        · exact Or.inr (Or.inl hslash)
        · exact Or.inr (Or.inr ⟨'#' :: (body ++ a₁), a₂, by simp, ha₂⟩)

end Gap

/-! ## What a step takes -/

/-- Text in front begins no fewer lines. -/
theorem lineBreaks_le_append (a b : List Char) : lineBreaks b ≤ lineBreaks (a ++ b) := by
  cases b with
  | nil => exact Nat.zero_le _
  | cons c b =>
    rw [lineBreaks_append a (List.cons_ne_nil c b)]
    exact Nat.le_add_left _ _

/-- Further on in the text the line is no earlier one. -/
theorem Reader.In.line_le {t : SourceText} {r r' : Reader} (h : r.In t) (h' : r'.In t)
    {front : List Char} (hrest : r.rest = front ++ r'.rest) : r.line ≤ r'.line := by
  have hline := h.line
  have hline' := h'.line
  have hle := lineBreaks_le_append front r'.rest
  rw [hrest] at hline
  omega

/-- What a step takes from the text: a gap, inside which marks may stand; a gap and a token behind
it; or a gap up to the end of the text. -/
inductive Step.Takes (t : SourceText) (r : Reader) : Step → Prop where
  | gap {ks : List Token} {before behind : List Char} {place next : Reader} (hplace : place.In t)
      (hnext : next.In t) (hbefore : Gap before) (hbehind : Gap behind)
      (hrest : r.rest = before ++ place.rest) (hplaceRest : place.rest = behind ++ next.rest)
      (hks : ∀ k ∈ ks, k.span.line = place.line ∧ k.span.endLine = place.line) :
      Takes t r (.emit ks next)
  | token {k : Token} {before body : List Char} {place next : Reader} (hplace : place.In t)
      (hnext : next.In t) (hbefore : Gap before) (hrest : r.rest = before ++ place.rest)
      (hplaceRest : place.rest = body ++ next.rest) (hsolid : k.isLayout = false)
      (hline : k.span.line = place.line) (hend : k.span.endLine = next.line) :
      Takes t r (.emit [k] next)
  | fault {stop : Option LexFault} : Takes t r (.stop [] stop)
  | finish {k : Token} {place : Reader} (hplace : place.In t) (hgap : Gap r.rest)
      (hplaceRest : place.rest = []) (hline : k.span.line = place.line)
      (hend : k.span.endLine = place.line) : Takes t r (.stop [k] none)

section
variable {t : SourceText} {r r' : Reader}

/-- What a step takes behind a gap, it takes with the gap. -/
theorem Step.Takes.prepend {s : Step} {front : List Char} (hfront : Gap front)
    (hrest : r.rest = front ++ r'.rest) (h : s.Takes t r') : s.Takes t r := by
  cases h with
  | gap hplace hnext hbefore hbehind hrest' hplaceRest hks =>
    refine .gap hplace hnext (hfront.append hbefore) hbehind ?_ hplaceRest hks
    rw [hrest, hrest', List.append_assoc]
  | token hplace hnext hbefore hrest' hplaceRest hsolid hline hend =>
    refine .token hplace hnext (hfront.append hbefore) ?_ hplaceRest hsolid hline hend
    rw [hrest, hrest', List.append_assoc]
  | fault => exact .fault
  | finish hplace hgap hplaceRest hline hend =>
    exact .finish hplace (hrest ▸ hfront.append hgap) hplaceRest hline hend

/-- A step that takes a gap and leaves nothing. -/
theorem Step.Takes.emit_nil {gap : List Char} (hr' : r'.In t) (hgap : Gap gap)
    (hrest : r.rest = gap ++ r'.rest) : (Step.emit [] r').Takes t r :=
  .gap hr' hr' hgap .nil hrest rfl nofun

/-- A step that takes one token. -/
theorem Step.Takes.emit_token {after : Reader} (h : r.In t) (hafter : after.In t) {n : Nat}
    (hrest : after.rest = r.rest.drop n) {kind : TokenKind} {text : List Char}
    (hsolid : (r.token after kind text).isLayout = false) :
    (Step.emit [r.token after kind text] after).Takes t r := by
  have hbody : r.rest = r.rest.take n ++ after.rest := by rw [hrest, List.take_append_drop]
  exact .token h hafter .nil rfl hbody hsolid rfl rfl

/-- Behind a backslash the reader stands behind the end of the line. -/
theorem rest_continueLine {c : Char} {cs : List Char} (hrest : r.rest = c :: cs)
    (hok : r.continueLine t = .ok r') : c :: cs = [c, '\n'] ++ r'.rest := by
  unfold Reader.continueLine at hok
  split at hok
  · cases hok
  · rename_i d rest hlast hsplit
    cases hok
    rw [hsplit] at hrest
    obtain ⟨rfl, rfl⟩ := List.cons.inj hrest
    rw [Reader.rest_next, Reader.rest_next, hsplit]
    rfl
  · cases hok

/-- An indentation is a gap. -/
theorem measure_gap (cs : List Char) (i : Indentation) (hrest : r.rest = cs) {i' : Indentation}
    (hok : measure t cs i r = .ok (i', r')) : ∃ gap, Gap gap ∧ cs = gap ++ r'.rest := by
  fun_induction measure t cs i r with
  | case1 c cs i r i₁ ih =>
    have hnext : r.next.next.fresh.rest = c :: cs := by
      change r.next.next.rest = c :: cs
      rw [Reader.rest_next, Reader.rest_next, hrest]
      rfl
    obtain ⟨gap, hgap, hsplit⟩ := ih hnext hok
    exact ⟨'\\' :: '\n' :: gap, .continued hgap, by rw [hsplit]; rfl⟩
  | case2 c cs i r _ hblank ih =>
    have hnext : r.next.rest = cs := by rw [Reader.rest_next, hrest, List.tail_cons]
    obtain ⟨gap, hgap, hsplit⟩ := ih hnext hok
    simp only [Bool.or_eq_true, decide_eq_true_eq, or_assoc] at hblank
    exact ⟨c :: gap, .blank (hblank.imp_right (Or.imp_right Or.inl)) hgap, by rw [hsplit]; rfl⟩
  | case3 cs i r _ hblank =>
    cases hcontinue : r.continueLine t with
    | error fault => simp [hcontinue, Except.map] at hok
    | ok r₁ =>
      simp only [hcontinue, Except.map, Except.ok.injEq, Prod.mk.injEq] at hok
      rw [← hok.2]
      exact ⟨['\\', '\n'], .continued .nil, rest_continueLine hrest hcontinue⟩
  | case4 c cs i r _ hblank hslash =>
    cases hok
    exact ⟨[], .nil, hrest.symm⟩
  | case5 i r =>
    cases hok
    exact ⟨[], .nil, hrest.symm⟩

/-- A step that takes nothing, and whose marks stand where the reader stands. -/
theorem Step.Takes.stay (h : r.In t) (hrest : r'.rest = r.rest) (hline : r'.line = r.line)
    {ks : List Token} (hks : ∀ k ∈ ks, k.span.line = r'.line ∧ k.span.endLine = r'.line) :
    (Step.emit ks r').Takes t r :=
  .gap (h.congr hrest hline) (h.congr hrest hline) .nil .nil hrest.symm rfl hks

/-- Opening and closing blocks takes nothing. -/
theorem layout_takes (h : r.In t) (levels : Nat × Nat) : (layout t r levels).Takes t r := by
  unfold layout
  dsimp only
  split
  · split
    · apply Step.Takes.stay h
      · rfl
      · rfl
      · simp
    · exact .fault
  · split
    · split
      · exact .fault
      · split
        · exact .fault
        · apply Step.Takes.stay h
          · rfl
          · rfl
          · simp [Reader.mark, Reader.token]
    · split
      · exact .fault
      · split
        · exact .fault
        · apply Step.Takes.stay h
          · rfl
          · rfl
          · intro k hk
            rw [(List.mem_replicate.mp hk).2]
            exact ⟨rfl, rfl⟩

/-- Moving over the longest front of a kind leaves what is behind it. -/
theorem rest_skip_takeWhile (r : Reader) (p : Char → Bool) :
    (r.skip (r.rest.takeWhile p)).rest = r.rest.dropWhile p := by
  calc (r.skip (r.rest.takeWhile p)).rest
      = (r.rest.takeWhile p ++ r.rest.dropWhile p).drop (r.rest.takeWhile p).length := by
        rw [Reader.rest_skip, List.takeWhile_append_dropWhile]
    _ = r.rest.dropWhile p := List.drop_left

/-- Behind a comment, or at the end of a line, the reader takes a gap up to the next line. -/
theorem lineEnd_gap {c : Char} {cs : List Char} (hrest : r.rest = c :: cs)
    (hc : c = '#' ∨ c = '\n') :
    ∃ gap, Gap gap ∧ r.rest = gap ++ (r.skip (r.rest.takeWhile (· ≠ '\n'))).next.rest := by
  obtain ⟨gap, hgap, hsplit⟩ := Gap.lineEnd hc
  refine ⟨gap, hgap, ?_⟩
  rw [Reader.rest_next, rest_skip_takeWhile, hrest]
  exact hsplit

/-- At the start of a line a step takes the indentation, and the line if it says nothing. -/
theorem readLineStart_takes (h : r.In t) : (readLineStart t r).Takes t r := by
  unfold readLineStart
  split
  · exact .fault
  · rename_i i r₁ hmeasure
    have hr₁ := measure_in r.rest ⟨0, 0, 0⟩ h hmeasure
    obtain ⟨indent, hindent, hrest⟩ := measure_gap r.rest ⟨0, 0, 0⟩ rfl hmeasure
    apply Step.Takes.prepend hindent hrest
    split
    · rename_i hline
      obtain ⟨gap, hgap, hsplit⟩ := lineEnd_gap hline (Or.inl rfl)
      exact .emit_nil ((hr₁.skip _).next.congr rfl rfl) hgap hsplit
    · rename_i hline
      obtain ⟨gap, hgap, hsplit⟩ := lineEnd_gap hline (Or.inr rfl)
      exact .emit_nil ((hr₁.skip _).next.congr rfl rfl) hgap hsplit
    · split
      · exact layout_takes hr₁ _
      · apply Step.Takes.stay hr₁
        · rfl
        · rfl
        · simp

/-- The end of a line is a gap; its token stands before the comment, if there is one. -/
theorem readNewline_takes {start : Reader} (hstart : start.In t) (h : r.In t) {gap : List Char}
    (hgap : Gap gap) (hrest : start.rest = gap ++ r.next.rest) :
    (readNewline start r).Takes t start := by
  have hafter : ({ r.next.fresh with lineStart := true } : Reader).In t := h.next.congr rfl rfl
  unfold readNewline
  dsimp only
  split
  · apply Step.Takes.gap hstart hafter .nil hgap rfl hrest
    simp [Reader.token]
  · exact .emit_nil hafter hgap hrest

/-- A word is taken as a name. -/
theorem readName_takes (h : r.In t) (word : List Char) : (readName r word).Takes t r := by
  unfold readName
  dsimp only
  split
  · exact .emit_token h (h.skip word) (Reader.rest_skip r word) rfl
  · exact .fault

/-- A number is taken as a token. -/
theorem readNumber_takes (h : r.In t) : (readNumber r).Takes t r := by
  unfold readNumber
  dsimp only
  split
  · exact .emit_token h (h.skip _) (Reader.rest_skip r _) rfl
  · exact .fault
  · exact .fault

/-- A string is taken as a token. -/
theorem readString_takes (h : r.In t) (word : List Char) (quote : Char) (body : List Char) :
    (readString r word quote body).Takes t r := by
  unfold readString
  dsimp only
  split
  · exact .emit_token h (h.skip _) (Reader.rest_skip r _) rfl
  · exact .fault

/-- An operator or a stray character is taken as a token. -/
theorem readOperator_takes (h : r.In t) (c : Char) : (readOperator r c).Takes t r := by
  unfold readOperator
  split
  · split
    · have hrest : r.next.rest = r.rest.drop 1 := by rw [Reader.rest_next, List.drop_one]
      exact .emit_token h h.next hrest rfl
    · exact .fault
  · rename_i text _
    dsimp only
    split
    · exact .fault
    · apply Step.Takes.emit_token h
      · exact (h.skip text).congr rfl rfl
      · exact Reader.rest_skip r text
      · rfl

/-- Inside a line a step takes blanks, and then a comment, the end of the line, or a token. -/
theorem readToken_takes (h : r.In t) : (readToken t r).Takes t r := by
  have hblanks : Gap (r.rest.takeWhile fun c => c = ' ' || c = '\t' || c = '\x0c') := by
    apply Gap.of_blanks
    intro c hc
    simpa [or_assoc] using Text.of_mem_takeWhile hc
  have hrest := rest_skip_takeWhile r fun c => c = ' ' || c = '\t' || c = '\x0c'
  have hsplit : r.rest = (r.rest.takeWhile fun c => c = ' ' || c = '\t' || c = '\x0c') ++
      (r.skip (r.rest.takeWhile fun c => c = ' ' || c = '\t' || c = '\x0c')).rest := by
    rw [hrest, List.takeWhile_append_dropWhile]
  have hr := h.skip (r.rest.takeWhile fun c => c = ' ' || c = '\t' || c = '\x0c')
  unfold readToken
  dsimp only
  apply Step.Takes.prepend hblanks hsplit
  generalize r.skip (r.rest.takeWhile fun c => c = ' ' || c = '\t' || c = '\x0c') = r at hr
  split
  · rename_i hend
    split
    · exact .finish hr (hend ▸ .nil) hend rfl rfl
    · exact .fault
  · rename_i hline
    obtain ⟨gap, hgap, hsplit⟩ := lineEnd_gap hline (Or.inl rfl)
    exact readNewline_takes hr (hr.skip _) hgap hsplit
  · rename_i hline
    have hfeed : Gap ['\n'] := .blank (by simp) .nil
    apply readNewline_takes hr hr hfeed
    rw [Reader.rest_next, hline]
    rfl
  · rename_i hline
    split
    · rename_i r' hcontinue
      refine .emit_nil (hr.continueLine hcontinue) (.continued .nil) ?_
      rw [hline]
      exact rest_continueLine hline hcontinue
    · exact .fault
  · rename_i c cs _ _ _ _
    split
    · exact readNumber_takes hr
    · split
      · exact readString_takes hr _ _ _
      · split
        · split
          · split
            · exact readString_takes hr _ _ _
            · exact readName_takes hr _
          · exact readName_takes hr _
        · exact readOperator_takes hr c

/-- Every step takes a gap and at most one token. -/
theorem Reader.step_takes (h : r.In t) : (r.step t).Takes t r := by
  unfold Reader.step
  split
  · exact readLineStart_takes h
  · exact readToken_takes h

/-! ## The lines of tokens -/

/-- Each token ends on no later line than the next one begins on, and begins on no later line than
it ends on. -/
structure Ordered (ks : List Token) : Prop where
  pairwise : ks.Pairwise fun a b => a.span.endLine ≤ b.span.line
  line_le : ∀ k ∈ ks, k.span.line ≤ k.span.endLine

/-- The tokens of a step are in order, and between the lines that the reader stands in before and
after. -/
theorem Step.Takes.ordered {ks : List Token} (h : r.In t) (hstep : (Step.emit ks r').Takes t r) :
    Ordered ks ∧ r.line ≤ r'.line ∧
      ∀ k ∈ ks, r.line ≤ k.span.line ∧ k.span.endLine ≤ r'.line := by
  cases hstep with
  | gap hplace hnext _ _ hrest hplaceRest hks =>
    have hbefore := h.line_le hplace hrest
    have hbehind := hplace.line_le hnext hplaceRest
    refine ⟨⟨?_, ?_⟩, by omega, ?_⟩
    · apply List.pairwise_of_forall_mem_list
      intro a ha b hb
      exact Nat.le_of_eq ((hks a ha).2.trans (hks b hb).1.symm)
    · intro k hk
      exact Nat.le_of_eq ((hks k hk).1.trans (hks k hk).2.symm)
    · intro k hk
      rw [(hks k hk).1, (hks k hk).2]
      exact ⟨hbefore, hbehind⟩
  | token hplace hnext _ hrest hplaceRest _ hline hend =>
    have hbefore := h.line_le hplace hrest
    have hbody := hplace.line_le hnext hplaceRest
    refine ⟨⟨List.pairwise_singleton _ _, ?_⟩, by omega, ?_⟩
    · intro k hk
      rw [List.mem_singleton.mp hk]
      omega
    · intro k hk
      rw [List.mem_singleton.mp hk]
      omega

/-- Tokens that follow ordered ones on later lines keep the order. -/
theorem Ordered.append {as bs : List Token} (ha : Ordered as) (hb : Ordered bs)
    (h : ∀ a ∈ as, ∀ b ∈ bs, a.span.endLine ≤ b.span.line) : Ordered (as ++ bs) := by
  constructor
  · exact List.pairwise_append.mpr ⟨ha.pairwise, hb.pairwise, h⟩
  · intro k hk
    exact (List.mem_append.mp hk).elim (ha.line_le k) (hb.line_le k)

/-- Reading on keeps the order of the tokens. -/
theorem readFrom_ordered (fuel : Nat) (h : r.In t) (acc : Array Token)
    (hacc : Ordered acc.toList) (hline : ∀ k ∈ acc.toList, k.span.endLine ≤ r.line) :
    Ordered (readFrom t fuel r acc).tokens.toList := by
  induction fuel generalizing r acc with
  | zero => exact hacc
  | succ fuel ih =>
    have hstep := Reader.step_takes h
    have hsound := Reader.step_sound h
    simp only [readFrom]
    cases hr : r.step t with
    | emit ks r' =>
      rw [hr] at hstep hsound
      obtain ⟨hks, hle, hlines⟩ := hstep.ordered h
      apply ih hsound.1
      · rw [Array.toList_append]
        apply hacc.append hks
        intro a ha b hb
        exact Nat.le_trans (hline a ha) (hlines b hb).1
      · intro k hk
        rw [Array.toList_append, List.mem_append] at hk
        rcases hk with hk | hk
        · exact Nat.le_trans (hline k hk) hle
        · exact (hlines k hk).2
    | stop ks fault =>
      rw [hr] at hstep
      dsimp only
      rw [Array.toList_append]
      cases hstep with
      | fault => simpa using hacc
      | finish hplace hgap hplaceRest hbegin hend =>
        have hle := h.line_le hplace (r.rest.append_nil.symm.trans (by rw [hplaceRest]))
        apply hacc.append
        · refine ⟨List.pairwise_singleton _ _, ?_⟩
          simp [hbegin, hend]
        · intro a ha b hb
          rw [List.mem_singleton.mp hb, hbegin]
          exact Nat.le_trans (hline a ha) hle

/-! ## What no token touches -/

/-- Reading on keeps the tokens so far. -/
theorem mem_readFrom (fuel : Nat) (r : Reader) {acc : Array Token} {k : Token} (hk : k ∈ acc) :
    k ∈ (readFrom t fuel r acc).tokens := by
  induction fuel generalizing r acc with
  | zero => exact hk
  | succ fuel ih =>
    simp only [readFrom]
    cases r.step t with
    | emit ks r' => exact ih r' (Array.mem_append_left _ hk)
    | stop ks fault => exact Array.mem_append_left _ hk

/-- A solid token touches the lines from its first to its last. -/
structure Token.Touches (k : Token) (line : Nat) : Prop where
  solid : k.isLayout = false
  line_le : k.span.line ≤ line
  le_endLine : line ≤ k.span.endLine

/-- Reading to the end of the text leaves no line out: where anything but a blank stands, and no
hash sign before it in its line, a comment begins, the line is continued, or a token touches the
line. -/
theorem readFrom_touches (fuel : Nat) (h : r.In t) (acc : Array Token)
    (hacc : ∀ k ∈ acc, k.kind ≠ .endMarker)
    (hend : ∃ k ∈ (readFrom t fuel r acc).tokens, k.kind = .endMarker) {a b : List Char} {c : Char}
    (hrest : r.rest = a ++ c :: b) (hc : ¬ (c = ' ' ∨ c = '\t' ∨ c = '\x0c' ∨ c = '\n'))
    (hhash : ∀ a₁ a₂, a = a₁ ++ '#' :: a₂ → '\n' ∈ a₂) {n : Nat}
    (hn : n + lineBreaks (c :: b) = 1 + lineBreaks t.chars) :
    c = '#' ∨ (c = '\\' ∧ b.head? = some '\n') ∨
      ∃ k ∈ (readFrom t fuel r acc).tokens, k.Touches n := by
  induction fuel generalizing r acc a with
  | zero =>
    obtain ⟨k, hk, hkind⟩ := hend
    exact absurd hkind (hacc k hk)
  | succ fuel ih =>
    have hgap {b' : List Char} (hb' : b'.head? = some '\n' → b.head? = some '\n')
        (h : Gap (a ++ c :: b')) : c = '#' ∨ (c = '\\' ∧ b.head? = some '\n') := by
      rcases h.cases_of_mem hc with hsign | ⟨hslash, hfeed⟩ | ⟨a₁, a₂, ha, hfeed⟩
      · exact Or.inl hsign
      · exact Or.inr ⟨hslash, hb' hfeed⟩
      · exact absurd (hhash a₁ a₂ ha) hfeed
    have hstep := Reader.step_takes h
    have hsound := Reader.step_sound h
    simp only [readFrom] at hend ⊢
    cases hr : r.step t with
    | stop ks fault =>
      rw [hr] at hstep hend
      cases hstep with
      | fault =>
        obtain ⟨k, hk, hkind⟩ := hend
        exact absurd hkind (hacc k (by simpa using hk))
      | finish hplace hrestGap hplaceRest hbegin hlast =>
        rw [hrest] at hrestGap
        exact (hgap id hrestGap).imp_right Or.inl
    | emit ks r' =>
      rw [hr] at hstep hsound hend
      have hacc' : ∀ k ∈ acc ++ ks.toArray, k.kind ≠ .endMarker := by
        intro k hk
        rcases Array.mem_append.mp hk with hk | hk
        · exact hacc k hk
        · exact (hsound.2 k (List.mem_toArray.mp hk)).2
      have hbehind (front : List Char) {a' : List Char} (ha : a = front ++ a')
          (hrest' : r'.rest = a' ++ c :: b) :=
        ih hsound.1 (acc ++ ks.toArray) hacc' hend hrest' (by
          intro a₁ a₂ ha'
          apply hhash (front ++ a₁) a₂
          rw [ha, ha', List.append_assoc])
      have hfeed {b' rest : List Char} (hb : b = b' ++ rest) :
          b'.head? = some '\n' → b.head? = some '\n' := by
        intro hhead
        rw [hb, List.head?_append, hhead, Option.some_or]
      cases hstep with
      | @gap _ before behind place _ _ _ hbefore hbehind' hsplit hplaceRest _ =>
        have htaken : (before ++ behind) ++ r'.rest = a ++ c :: b := by
          rw [← hrest, hsplit, hplaceRest, List.append_assoc]
        rcases append_eq_append_cons htaken with ⟨b', hfront, hb⟩ | ⟨a', ha, hrest'⟩
        · exact (hgap (hfeed hb) (hfront ▸ hbefore.append hbehind')).imp_right Or.inl
        · exact hbehind _ ha hrest'
      | @token k before body place _ hplace hnext hbefore hsplit hplaceRest hsolid hline hlast =>
        rcases append_eq_append_cons (hsplit.symm.trans hrest) with
          ⟨b', hfront, hb⟩ | ⟨a', ha, hrest'⟩
        · exact (hgap (hfeed hb) (hfront ▸ hbefore)).imp_right Or.inl
        · rcases append_eq_append_cons (hplaceRest.symm.trans hrest') with
            ⟨b', hbody, hb⟩ | ⟨a'', ha', hrest''⟩
          · -- the character is one of the token
            refine Or.inr (Or.inr ⟨k, mem_readFrom fuel r' (by simp), hsolid, ?_, ?_⟩)
            · have hplaceLine := hplace.line
              have hle := lineBreaks_le_append a' (c :: b)
              rw [hrest'] at hplaceLine
              omega
            · have hnextLine := hnext.line
              have hle := lineBreaks_le_append (c :: b') r'.rest
              rw [List.cons_append, ← hb] at hle
              omega
          · exact hbehind (before ++ body) (by rw [ha, ha', List.append_assoc]) hrest''

end

/-- The lines of the tokens of a text follow one another. -/
theorem SourceText.tokens_ordered (t : SourceText) : Ordered t.tokens.tokens.toList :=
  readFrom_ordered _ (Reader.start_in t) #[] ⟨List.Pairwise.nil, nofun⟩ nofun

/-- A line of a text that is read to its end begins with a comment, is empty but for a backslash, or
is touched by a token. -/
theorem SourceText.exists_touching (t : SourceText)
    (hend : ∃ k ∈ t.tokens.tokens, k.kind = .endMarker)
    {left blanks rest right : List Char} {c : Char}
    (hchars : t.chars = left ++ ((blanks ++ c :: rest) ++ right))
    (hbetween : Text.Between '\n' left (blanks ++ c :: rest) right)
    (hblanks : ∀ d ∈ blanks, d = ' ' ∨ d = '\t' ∨ d = '\x0c')
    (hc : ¬ (c = ' ' ∨ c = '\t' ∨ c = '\x0c')) :
    c = '#' ∨ (c = '\\' ∧ rest = []) ∨
      ∃ k ∈ t.tokens.tokens, k.Touches (left.count '\n' + 1) := by
  have hfree := hbetween.free
  rw [List.mem_append, List.mem_cons, not_or, not_or] at hfree
  obtain ⟨hblanksFree, hcFree, hrestFree⟩ := hfree
  have hsplit : t.chars = (left ++ blanks) ++ c :: (rest ++ right) := by
    rw [hchars]
    simp
  have hnumber :
      left.count '\n' + 1 + lineBreaks (c :: (rest ++ right)) = 1 + lineBreaks t.chars := by
    rw [hsplit, lineBreaks_append _ (List.cons_ne_nil _ _), List.count_append,
      List.count_eq_zero.mpr hblanksFree]
    omega
  -- the last hash sign before the line is behind a line feed
  have hhash : ∀ a₁ a₂, left ++ blanks = a₁ ++ '#' :: a₂ → '\n' ∈ a₂ := by
    intro a₁ a₂ h
    rcases append_eq_append_cons h with ⟨b', hleft, rfl⟩ | ⟨a', -, hblank⟩
    · have hlast := hbetween.left.resolve_left (by simp [hleft])
      rw [hleft, List.getLast?_append, List.getLast?_cons] at hlast
      cases hb' : b'.getLast? with
      | none => simp [hb'] at hlast
      | some d =>
        obtain rfl : d = '\n' := by simpa [hb'] using hlast
        exact List.mem_append_left _ (List.mem_of_getLast? hb')
    · have hsign := hblanks '#' (by simp [hblank])
      simp at hsign
  have hblank : ¬ (c = ' ' ∨ c = '\t' ∨ c = '\x0c' ∨ c = '\n') := by
    intro h
    rcases h with h | h | h | h
    · exact hc (Or.inl h)
    · exact hc (Or.inr (Or.inl h))
    · exact hc (Or.inr (Or.inr h))
    · exact hcFree h.symm
  rcases readFrom_touches _ (Reader.start_in t) #[] nofun hend hsplit hblank hhash hnumber with
    hsign | ⟨hslash, hfeed⟩ | htouched
  · exact Or.inl hsign
  · refine Or.inr (Or.inl ⟨hslash, ?_⟩)
    cases rest with
    | nil => rfl
    | cons d rest =>
      obtain rfl : d = '\n' := by simpa using hfeed
      exact absurd List.mem_cons_self hrestFree
  · exact Or.inr (Or.inr htouched)

end NodeLint.Source
