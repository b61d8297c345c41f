import NodeLint.Proofs.Extent

/-!
# Logical lines

Tokens of the layout cut a program into logical lines. A logical line may go on over several lines
of the text, but no two of them share one: a line of the text ends with each newline token, and
blocks are opened and closed at the start of a line only. This is what the reader keeps to, step by
step.

Where logical lines begin and end in the grammar is computed from its phrases and checked rule by
rule. Expressions and simple statements stay inside a logical line, and statements end one.
-/

namespace NodeLint.Source

/-! ## Where lines start -/

namespace Reader

/-- Moving on inside a text starts no line. -/
@[simp] theorem lineStart_next (r : Reader) : r.next.lineStart = r.lineStart := by
  unfold next
  split <;> rfl

/-- Nor does moving over several characters. -/
@[simp] theorem lineStart_skip (r : Reader) (taken : List Char) :
    (r.skip taken).lineStart = r.lineStart := by
  unfold skip
  induction taken generalizing r with
  | nil => rfl
  | cons c taken ih => rw [List.foldl_cons, ih, lineStart_next]

/-- Behind a backslash the line goes on. -/
theorem lineStart_continueLine {t : SourceText} {r r' : Reader} (h : r.continueLine t = .ok r') :
    r'.lineStart = r.lineStart := by
  unfold continueLine at h
  split at h
  · cases h
  · cases h
    rw [lineStart_next, lineStart_next]
  · cases h

/-- Behind a line feed the reader is on a later line, or the text is at its end. -/
theorem line_lt_next {r : Reader} (h : ∀ c ∈ r.rest.head?, c = '\n') :
    r.line < r.next.line ∨ r.next.rest = [] := by
  unfold next
  split
  · exact Or.inr ‹_›
  · exact Or.inr rfl
  · exact Or.inl (Nat.lt_succ_self _)
  · rename_i c cs _ hother hrest
    rw [hrest] at h
    exact absurd (h c rfl) hother

end Reader

/-- What a step does to the lines of a text: it takes a token inside a line, goes on inside it,
opens or closes blocks at its start, or ends it. -/
inductive Step.Lays (r : Reader) : Step → Prop where
  | token {k : Token} {next : Reader} (hrest : r.rest ≠ []) (hsolid : k.isLayout = false)
      (hstart : next.lineStart = false) : Lays r (.emit [k] next)
  | inside {next : Reader} (hstart : next.lineStart = false) : Lays r (.emit [] next)
  | lineStart {ks : List Token} {next : Reader} (hks : ∀ k ∈ ks, k.isLayout = true)
      (hstart : r.lineStart = true) : Lays r (.emit ks next)
  | lineEnd {ks : List Token} {next : Reader} (hks : ∀ k ∈ ks, k.isLayout = true)
      (hline : r.line < next.line ∨ next.rest = []) : Lays r (.emit ks next)
  | stop {ks : List Token} {fault : Option LexFault} (hks : ∀ k ∈ ks, k.isLayout = true) :
      Lays r (.stop ks fault)

section
variable {t : SourceText} {r r' : Reader}

/-- Opening and closing blocks leaves marks. -/
theorem layout_lays (h : r.lineStart = true) (r₁ : Reader) (levels : Nat × Nat) :
    (layout t r₁ levels).Lays r := by
  unfold layout
  dsimp only
  split
  · split
    · exact .lineStart nofun h
    · exact .stop nofun
  · split
    · split
      · exact .stop nofun
      · split
        · exact .stop nofun
        · apply Step.Lays.lineStart _ h
          intro k hk
          rw [List.mem_singleton.mp hk]
          rfl
    · split
      · exact .stop nofun
      · split
        · exact .stop nofun
        · apply Step.Lays.lineStart _ h
          intro k hk
          rw [(List.mem_replicate.mp hk).2]
          rfl

/-- At the start of a line there are only marks. -/
theorem readLineStart_lays (h : r.lineStart = true) : (readLineStart t r).Lays r := by
  unfold readLineStart
  split
  · exact .stop nofun
  · split
    · exact .lineStart nofun h
    · exact .lineStart nofun h
    · split
      · exact layout_lays h _ _
      · exact .lineStart nofun h

/-- A step from further on in a line does the same to the lines. -/
theorem Step.Lays.prepend {s : Step} (hrest : r'.rest ≠ [] → r.rest ≠ [])
    (hline : r.line ≤ r'.line) (hstart : r'.lineStart = r.lineStart) (h : s.Lays r') :
    s.Lays r := by
  cases h with
  | token hr hsolid hnext => exact .token (hrest hr) hsolid hnext
  | inside hnext => exact .inside hnext
  | lineStart hks hr => exact .lineStart hks (hstart ▸ hr)
  | lineEnd hks hnext => exact .lineEnd hks (hnext.imp_left (Nat.lt_of_le_of_lt hline))
  | stop hks => exact .stop hks

/-- The end of a line leaves at most a mark. -/
theorem readNewline_lays {start : Reader} (hline : start.line ≤ r.line)
    (hfeed : ∀ c ∈ r.rest.head?, c = '\n') : (readNewline start r).Lays start := by
  have hnext : start.line < ({ r.next.fresh with lineStart := true } : Reader).line ∨
      ({ r.next.fresh with lineStart := true } : Reader).rest = [] :=
    (Reader.line_lt_next hfeed).imp_left (Nat.lt_of_le_of_lt hline)
  unfold readNewline
  dsimp only
  split
  · apply Step.Lays.lineEnd _ hnext
    intro k hk
    rw [List.mem_singleton.mp hk]
    rfl
  · exact .lineEnd nofun hnext

/-- Names are taken inside a line. -/
theorem readName_lays (h : r.lineStart = false) (hrest : r.rest ≠ []) (word : List Char) :
    (readName r word).Lays r := by
  unfold readName
  dsimp only
  split
  · exact .token hrest rfl (by rw [Reader.lineStart_skip, h])
  · exact .stop nofun

/-- So are numbers. -/
theorem readNumber_lays (h : r.lineStart = false) (hrest : r.rest ≠ []) :
    (readNumber r).Lays r := by
  unfold readNumber
  dsimp only
  split
  · exact .token hrest rfl (by rw [Reader.lineStart_skip, h])
  · exact .stop nofun
  · exact .stop nofun

/-- So are strings. -/
theorem readString_lays (h : r.lineStart = false) (hrest : r.rest ≠ []) (word : List Char)
    (quote : Char) (body : List Char) : (readString r word quote body).Lays r := by
  unfold readString
  dsimp only
  split
  · exact .token hrest rfl (by rw [Reader.lineStart_skip, h])
  · exact .stop nofun

/-- So are operators. -/
theorem readOperator_lays (h : r.lineStart = false) (hrest : r.rest ≠ []) (c : Char) :
    (readOperator r c).Lays r := by
  unfold readOperator
  split
  · split
    · exact .token hrest rfl (by rw [Reader.lineStart_next, h])
    · exact .stop nofun
  · rename_i text _
    dsimp only
    split
    · exact .stop nofun
    · refine .token hrest rfl ?_
      change (r.skip text).lineStart = false
      rw [Reader.lineStart_skip, h]

/-- Inside a line a step takes a token, goes on, or ends the line. -/
theorem readToken_lays (h : r.In t) (hstart : r.lineStart = false) : (readToken t r).Lays r := by
  have hr := h.skip (r.rest.takeWhile fun c => c = ' ' || c = '\t' || c = '\x0c')
  have hdrop := rest_skip_takeWhile r fun c => c = ' ' || c = '\t' || c = '\x0c'
  have hlineStart :=
    r.lineStart_skip (r.rest.takeWhile fun c => c = ' ' || c = '\t' || c = '\x0c')
  unfold readToken
  dsimp only
  generalize r.skip (r.rest.takeWhile fun c => c = ' ' || c = '\t' || c = '\x0c') = r₁ at *
  have hline : r.line ≤ r₁.line := by
    apply h.line_le hr
    rw [hdrop, List.takeWhile_append_dropWhile]
  have hrest : r₁.rest ≠ [] → r.rest ≠ [] := by
    intro hne hnil
    rw [hnil, List.dropWhile_nil] at hdrop
    exact hne hdrop
  apply Step.Lays.prepend hrest hline hlineStart
  rw [hstart] at hlineStart
  split
  · split
    · apply Step.Lays.stop
      intro k hk
      rw [List.mem_singleton.mp hk]
      rfl
    · exact .stop nofun
  · have hcomment := rest_skip_takeWhile r₁ fun c => decide (c ≠ '\n')
    apply readNewline_lays
    · apply hr.line_le (hr.skip _)
      rw [hcomment, List.takeWhile_append_dropWhile]
    · intro c hc
      rw [hcomment] at hc
      simpa using Text.head?_dropWhile hc
  · rename_i hfeed
    apply readNewline_lays (Nat.le_refl _)
    intro c hc
    rw [hfeed] at hc
    exact (Option.some.inj hc).symm
  · split
    · rename_i hcontinue
      exact .inside ((Reader.lineStart_continueLine hcontinue).trans hlineStart)
    · exact .stop nofun
  · rename_i c cs _ _ _ hcs
    have hne : r₁.rest ≠ [] := by
      rw [hcs]
      exact List.cons_ne_nil c cs
    split
    · exact readNumber_lays hlineStart hne
    · split
      · exact readString_lays hlineStart hne _ _ _
      · split
        · split
          · split
            · exact readString_lays hlineStart hne _ _ _
            · exact readName_lays hlineStart hne _
          · exact readName_lays hlineStart hne _
        · exact readOperator_lays hlineStart hne c

/-- Each step does one of these to the lines. -/
theorem Reader.step_lays (h : r.In t) : (r.step t).Lays r := by
  unfold Reader.step
  split
  · exact readLineStart_lays ‹_›
  · exact readToken_lays h (Bool.eq_false_iff.mpr ‹_›)

end

/-! ## Tokens of different lines -/

/-- A list within two lists is within the first, if its last element is not in the second. -/
theorem sublist_of_not_mem {α : Type} (front : List α) {as bs : List α} {x : α}
    (h : (front ++ [x]).Sublist (as ++ bs)) (hx : x ∉ bs) : (front ++ [x]).Sublist as := by
  obtain ⟨left, right, hsplit, hleft, hright⟩ := List.sublist_append_iff.mp h
  rcases List.eq_nil_or_concat right with rfl | ⟨more, last, rfl⟩
  · rw [hsplit, List.append_nil]
    exact hleft
  · rw [List.concat_eq_append, ← List.append_assoc] at hsplit
    obtain ⟨-, hlast⟩ := List.append_inj' hsplit rfl
    rw [List.singleton_inj.mp hlast] at hx
    exact absurd (hright.subset (by simp)) hx

/-- Solid tokens with a token of the layout between them are on different lines. -/
def Apart (ks : List Token) : Prop :=
  ∀ a k b, [a, k, b].Sublist ks → a.isLayout = false → k.isLayout = true → b.isLayout = false →
    a.span.endLine < b.span.line

/-- Tokens that were read before a reader: those of different lines are apart. Unless the text is at
its end, the reader is behind the lines of all solid tokens that the layout separates from it, and
at the start of a line behind those of all solid tokens. -/
structure Lined (ks : List Token) (r : Reader) : Prop where
  apart : Apart ks
  behind : r.rest ≠ [] → ∀ a k, [a, k].Sublist ks → a.isLayout = false → k.isLayout = true →
    a.span.endLine < r.line
  start : r.rest ≠ [] → r.lineStart = true → ∀ a ∈ ks, a.isLayout = false → a.span.endLine < r.line

section
variable {t : SourceText} {r r' : Reader} {acc ks : List Token}

/-- Tokens of the layout further on separate no more tokens. -/
theorem Apart.append_layout (h : Apart acc) (hks : ∀ k ∈ ks, k.isLayout = true) :
    Apart (acc ++ ks) := by
  intro a k b hsub ha hk hb
  have hb' : b ∉ ks := fun hmem => by simp [hks b hmem] at hb
  exact h a k b (sublist_of_not_mem [a, k] hsub hb') ha hk hb

/-- Behind tokens of the layout the reader is behind the lines of all solid tokens. -/
theorem Lined.layout (h : Lined acc r) (hks : ∀ k ∈ ks, k.isLayout = true)
    (hline : r'.rest ≠ [] → ∀ a ∈ acc, a.isLayout = false → a.span.endLine < r'.line) :
    Lined (acc ++ ks) r' := by
  have hmem (a : Token) (ha : a ∈ acc ++ ks) (hsolid : a.isLayout = false) : a ∈ acc := by
    apply (List.mem_append.mp ha).resolve_right
    intro hks'
    simp [hks a hks'] at hsolid
  refine ⟨h.apart.append_layout hks, ?_, ?_⟩
  · intro hrest a k hsub ha _
    exact hline hrest a (hmem a (hsub.subset List.mem_cons_self) ha) ha
  · intro hrest _ a ha hsolid
    exact hline hrest a (hmem a ha hsolid) hsolid

/-- A solid token inside a line comes behind the lines of the tokens that are separated from it. -/
theorem Lined.token (h : Lined acc r) {k : Token} (hrest : r.rest ≠ [])
    (hsolid : k.isLayout = false) (hbegin : r.line ≤ k.span.line) (hline : r.line ≤ r'.line)
    (hstart : r'.lineStart = false) : Lined (acc ++ [k]) r' := by
  -- the layout before the new token is already there
  have hsub {a b : Token} (hsub : [a, b].Sublist (acc ++ [k])) (hb : b.isLayout = true) :
      [a, b].Sublist acc := by
    apply sublist_of_not_mem [a] hsub
    intro hmem
    rw [List.mem_singleton.mp hmem, hsolid] at hb
    cases hb
  refine ⟨?_, ?_, ?_⟩
  · intro a b c hall ha hb hc
    by_cases hck : c = k
    · have hfront : [a, b].Sublist (acc ++ [k]) :=
        (List.sublist_append_left [a, b] [c]).trans hall
      rw [hck]
      exact Nat.lt_of_lt_of_le (h.behind hrest a b (hsub hfront hb) ha hb) hbegin
    · have hc' : c ∉ [k] := fun hmem => hck (List.mem_singleton.mp hmem)
      exact h.apart a b c (sublist_of_not_mem [a, b] hall hc') ha hb hc
  · intro _ a b hfront ha hb
    exact Nat.lt_of_lt_of_le (h.behind hrest a b (hsub hfront hb) ha hb) hline
  · intro _ hlineStart
    rw [hstart] at hlineStart
    cases hlineStart

/-- Each step keeps the tokens of different lines apart. -/
theorem Lined.step (h : Lined acc r) (hin : r.In t) (hacc : ∀ k ∈ acc, k.span.endLine ≤ r.line)
    (hstep : r.step t = .emit ks r') : Lined (acc ++ ks) r' := by
  have htakes := Reader.step_takes hin
  have hlays := Reader.step_lays hin
  rw [hstep] at htakes hlays
  obtain ⟨-, hle, hlines⟩ := htakes.ordered hin
  have hrest : r'.rest ≠ [] → r.rest ≠ [] := by
    intro hne hnil
    apply hne
    cases htakes with
    | gap _ _ _ _ hsplit hplace _ | token _ _ _ hsplit hplace _ _ _ =>
      rw [hnil, hplace] at hsplit
      exact (List.append_eq_nil_iff.mp (List.append_eq_nil_iff.mp hsplit.symm).2).2
  cases hlays with
  | token hne hsolid hstart =>
    exact h.token hne hsolid (hlines _ List.mem_cons_self).1 hle hstart
  | inside hstart =>
    rw [List.append_nil]
    refine ⟨h.apart, ?_, ?_⟩
    · intro hne a k hsub ha hk
      exact Nat.lt_of_lt_of_le (h.behind (hrest hne) a k hsub ha hk) hle
    · intro _ hlineStart
      rw [hstart] at hlineStart
      cases hlineStart
  | lineStart hks hstart =>
    apply h.layout hks
    intro hne a ha hsolid
    exact Nat.lt_of_lt_of_le (h.start (hrest hne) hstart a ha hsolid) hle
  | lineEnd hks hline =>
    apply h.layout hks
    intro hne a ha _
    exact Nat.lt_of_le_of_lt (hacc a ha) (hline.resolve_right hne)

/-- Reading on keeps them apart. -/
theorem readFrom_apart (fuel : Nat) (hin : r.In t) {acc : Array Token} (h : Lined acc.toList r)
    (hacc : ∀ k ∈ acc.toList, k.span.endLine ≤ r.line) :
    Apart (readFrom t fuel r acc).tokens.toList := by
  induction fuel generalizing r acc with
  | zero => exact h.apart
  | succ fuel ih =>
    have htakes := Reader.step_takes hin
    have hsound := Reader.step_sound hin
    have hlays := Reader.step_lays hin
    simp only [readFrom]
    cases hstep : r.step t with
    | emit ks r' =>
      rw [hstep] at htakes hsound
      obtain ⟨-, hle, hlines⟩ := htakes.ordered hin
      apply ih hsound.1
      · rw [Array.toList_append]
        exact h.step hin hacc hstep
      · intro k hk
        rw [Array.toList_append, List.mem_append] at hk
        rcases hk with hk | hk
        · exact Nat.le_trans (hacc k hk) hle
        · exact (hlines k hk).2
    | stop ks fault =>
      rw [hstep] at hlays
      cases hlays with
      | stop hks =>
        rw [Array.toList_append]
        exact h.apart.append_layout hks

end

/-- The solid tokens of different lines of a text are apart. -/
theorem SourceText.tokens_apart (t : SourceText) : Apart t.tokens.tokens.toList := by
  have hnone : Lined (#[] : Array Token).toList (Reader.start t) := by
    refine ⟨?_, ?_, ?_⟩
    · intro a k b hsub
      cases hsub
    · intro _ a k hsub
      cases hsub
    · intro _ _ a ha
      cases ha
  exact readFrom_apart _ (Reader.start_in t) hnone nofun

/-! ## Positions where lines begin -/

section
variable {tokens : Array Token} {i j m n x y z : Nat} {a b k : Token}

/-- A logical line begins at the first token, and behind each token of the layout. -/
def BeginsLine (tokens : Array Token) (i : Nat) : Prop :=
  ∀ n, i = n + 1 → ∃ k, tokens[n]? = some k ∧ k.isLayout = true

/-- A logical line begins with the tokens. -/
theorem BeginsLine.zero : BeginsLine tokens 0 := nofun

/-- A logical line begins behind a token of the layout. -/
theorem BeginsLine.behind (hk : tokens[i]? = some k) (hlayout : k.isLayout = true) :
    BeginsLine tokens (i + 1) := by
  intro n hn
  rw [← Nat.succ.inj hn]
  exact ⟨k, hk, hlayout⟩

/-- Of three positions, the tokens are in this order. -/
theorem sublist_of_lt (hxy : x < y) (hyz : y < z) (ha : tokens[x]? = some a)
    (hk : tokens[y]? = some k) (hb : tokens[z]? = some b) : [a, k, b].Sublist tokens.toList := by
  obtain ⟨hx, rfl⟩ := Array.getElem?_eq_some_iff.mp ha
  obtain ⟨hy, rfl⟩ := Array.getElem?_eq_some_iff.mp hk
  obtain ⟨hz, rfl⟩ := Array.getElem?_eq_some_iff.mp hb
  have hfront : tokens[x] ∈ tokens.toList.take y :=
    List.mem_take_iff_getElem.mpr ⟨x, by simp; omega, by simp⟩
  have hrest : tokens[z] ∈ tokens.toList.drop (y + 1) := by
    refine List.mem_drop_iff_getElem.mpr ⟨z - (y + 1), by simp; omega, ?_⟩
    simp [Nat.add_sub_cancel' (Nat.succ_le_of_lt hyz)]
  have hsplit :
      tokens.toList.take y ++ tokens[y] :: tokens.toList.drop (y + 1) = tokens.toList := by
    rw [← Array.getElem_toList (by omega), ← List.drop_eq_getElem_cons, List.take_append_drop]
  rw [← hsplit]
  exact (List.singleton_sublist.mpr hfront).append ((List.singleton_sublist.mpr hrest).cons_cons _)

/-- A solid token before the beginning of a logical line ends on an earlier line than any solid
token behind it begins. -/
theorem BeginsLine.endLine_lt (h : BeginsLine tokens n) (hapart : Apart tokens.toList) (hxn : x < n)
    (hnz : n ≤ z) (ha : tokens[x]? = some a) (hasolid : a.isLayout = false)
    (hb : tokens[z]? = some b) (hbsolid : b.isLayout = false) : a.span.endLine < b.span.line := by
  obtain ⟨y, rfl⟩ : ∃ y, n = y + 1 := ⟨n - 1, by omega⟩
  obtain ⟨k, hk, hlayout⟩ := h y rfl
  have hxy : x ≠ y := by
    rintro rfl
    rw [Option.some.inj (ha.symm.trans hk), hlayout] at hasolid
    cases hasolid
  exact hapart a k b (sublist_of_lt (by omega) (by omega) ha hk hb) hasolid hlayout hbsolid

end

/-! ## Phrases inside a line -/

/-- Rules whose phrases end a logical line. -/
def Rule.endsLine (r : Rule) : Bool := r.holdsBlocks || r = .simpleStatements

namespace Phrase

mutual

/-- Whether a phrase stays inside a logical line: it takes no token of the layout. -/
def staysInLine : Phrase → Bool
  | .terminal t | .keep t => !t.isLayout
  | .rule r => !r.endsLine
  | .seq ps | .alt ps => allStayInLine ps
  | .commit head body otherwise => staysInLine head && staysInLine body && staysInLine otherwise
  | .optional p | .many p | .many1 p | .node _ p | .checked p _ | .plain p => staysInLine p
  | .sepBy p sep => staysInLine p && staysInLine sep
  | .chain head steps => staysInLine head && stepsStayInLine steps
  | .ahead _ | .notAhead _ | .forced _ | .refuse _ _ | .hint _ => true

/-- The same for several phrases. -/
def allStayInLine : List Phrase → Bool
  | [] => true
  | p :: ps => staysInLine p && allStayInLine ps

/-- The same for the steps of a chain. -/
def stepsStayInLine : List (Kind × Phrase) → Bool
  | [] => true
  | (_, p) :: steps => staysInLine p && stepsStayInLine steps

end

/-- All rules but those that end a line stay inside it. -/
theorem staysInLine_body {r : Rule} (h : r.endsLine = false) : staysInLine r.body = true := by
  revert h
  cases r <;> decide +kernel

/-- Every one of several phrases that stay inside a line stays inside it. -/
theorem staysInLine_of_mem {p : Phrase} {ps : List Phrase} (h : allStayInLine ps = true)
    (hp : p ∈ ps) : staysInLine p = true :=
  of_mem_all (fun _ _ => rfl) h hp

/-- So does every step of a chain that stays inside it. -/
theorem staysInLine_of_mem_steps {kind : Kind} {p : Phrase} {steps : List (Kind × Phrase)}
    (h : stepsStayInLine steps = true) (hp : (kind, p) ∈ steps) : staysInLine p = true :=
  of_mem_all (f := fun step : Kind × Phrase => staysInLine step.2) (fun _ _ => rfl) h hp

mutual

/-- Whether a logical line begins behind a phrase; `fresh` says that one begins with it. -/
def endsLine (fresh : Bool) : Phrase → Bool
  | .terminal t | .keep t => t.isLayout
  | .rule r => r.endsLine
  | .seq ps => seqEndsLine fresh ps
  | .alt ps => allEndLine fresh ps
  | .commit head body otherwise =>
    endsLine (endsLine fresh head) body && endsLine fresh otherwise
  | .optional p => fresh && endsLine fresh p
  | .many p => fresh && endsLine true p
  | .many1 p => endsLine fresh p && endsLine true p
  | .node _ p | .checked p _ | .plain p => endsLine fresh p
  | .ahead _ | .notAhead _ => fresh
  | .refuse _ _ | .hint _ => true
  | .forced _ | .sepBy _ _ | .chain _ _ => false

/-- The same for phrases one after the other. -/
def seqEndsLine (fresh : Bool) : List Phrase → Bool
  | [] => fresh
  | p :: ps => seqEndsLine (endsLine fresh p) ps

/-- Whether all of several phrases end a line. -/
def allEndLine (fresh : Bool) : List Phrase → Bool
  | [] => true
  | p :: ps => endsLine fresh p && allEndLine fresh ps

end

/-- The rules that end a line do, wherever they begin. -/
theorem endsLine_body {r : Rule} (h : r.endsLine = true) : endsLine false r.body = true := by
  revert h
  cases r <;> decide +kernel

/-- Every one of several phrases that end a line ends it. -/
theorem endsLine_of_mem {fresh : Bool} {p : Phrase} {ps : List Phrase}
    (h : allEndLine fresh ps = true) (hp : p ∈ ps) : endsLine fresh p = true :=
  of_mem_all (fun _ _ => rfl) h hp

end Phrase

section
variable {check : Field → Option Fault} {tokens : Array Token} {i j m : Nat} {k : Token}
  {p : Phrase} {trees : List Tree}

/-- The tokens of a stretch are solid. -/
def AllSolid (tokens : Array Token) (i j : Nat) : Prop :=
  ∀ x, i ≤ x → x < j → ∃ k, tokens[x]? = some k ∧ k.isLayout = false

/-- An empty stretch has no tokens. -/
theorem AllSolid.empty : AllSolid tokens i i := by
  intro x hix hxi
  omega

/-- The same for adjacent stretches. -/
theorem AllSolid.append (hfirst : AllSolid tokens i m) (hrest : AllSolid tokens m j) :
    AllSolid tokens i j := by
  intro x hix hxj
  by_cases hxm : x < m
  · exact hfirst x hix hxm
  · exact hrest x (by omega) hxj

/-- A token that a terminal accepts is solid, if the terminal is not about the layout. -/
theorem AllSolid.one {t : Terminal} (hread : tokens[i]? = some k) (haccepts : t.accepts k = true)
    (ht : t.isLayout = false) : AllSolid tokens i (i + 1) := by
  intro x hix hxi
  obtain rfl : x = i := by omega
  exact ⟨k, hread, t.isLayout_of_accepts ht haccepts⟩

/-- A phrase that stays inside a line takes solid tokens only. -/
theorem Derives.allSolid (h : Derives language check tokens p i j trees)
    (hp : Phrase.staysInLine p = true) : AllSolid tokens i j := by
  induction h with
  | terminal hread haccepts | keep hread haccepts =>
    exact .one hread haccepts (by simpa [Phrase.staysInLine] using hp)
  | forced hread haccepts => exact .one hread haccepts rfl
  | rule _ ih => exact ih (Phrase.staysInLine_body (by simpa [Phrase.staysInLine] using hp))
  | alt hmem _ ih => exact ih (Phrase.staysInLine_of_mem hp hmem)
  | seqNil | optionalNone | manyNil | ahead | notAhead => exact .empty
  | optionalSome _ ih | node _ ih | checked _ _ ih | plain _ ih => exact ih hp
  | seqCons _ _ ih₁ ih₂ =>
    simp only [Phrase.staysInLine, Phrase.allStayInLine, Bool.and_eq_true] at hp
    exact (ih₁ hp.1).append (ih₂ hp.2)
  | commit _ _ ih₁ ih₂ =>
    simp only [Phrase.staysInLine, Bool.and_eq_true] at hp
    exact (ih₁ hp.1.1).append (ih₂ hp.1.2)
  | otherwise _ ih =>
    simp only [Phrase.staysInLine, Bool.and_eq_true] at hp
    exact ih hp.2
  | manyCons _ _ ih₁ ih₂ | many1 _ _ ih₁ ih₂ => exact (ih₁ hp).append (ih₂ hp)
  | sepBy _ _ ih₁ ih₂ =>
    simp only [Phrase.staysInLine, Bool.and_eq_true] at hp
    exact (ih₁ hp.1).append
      (ih₂ (by simp [Phrase.staysInLine, Phrase.allStayInLine, hp.1, hp.2]))
  | chainHead _ ih =>
    simp only [Phrase.staysInLine, Bool.and_eq_true] at hp
    exact ih hp.1
  | chainStep _ hmem _ ih₁ ih₂ =>
    have hsteps := hp
    simp only [Phrase.staysInLine, Bool.and_eq_true] at hsteps
    exact (ih₁ hp).append (ih₂ (Phrase.staysInLine_of_mem_steps hsteps.2 hmem))

/-- Behind a token that a terminal of the layout accepts a logical line begins. -/
theorem BeginsLine.accepts {t : Terminal} (hread : tokens[i]? = some k)
    (haccepts : t.accepts k = true) (ht : t.isLayout = true) : BeginsLine tokens (i + 1) := by
  apply BeginsLine.behind hread
  cases t <;> simp_all [Terminal.isLayout, Terminal.accepts, Token.isLayout]

/-- A phrase that ends a logical line does. -/
theorem Derives.beginsLine (h : Derives language check tokens p i j trees) {fresh : Bool}
    (hfresh : fresh = true → BeginsLine tokens i) (hp : Phrase.endsLine fresh p = true) :
    BeginsLine tokens j := by
  induction h generalizing fresh with
  | terminal hread haccepts | keep hread haccepts => exact .accepts hread haccepts hp
  | rule _ ih => exact ih (fun hfalse : false = true => nomatch hfalse) (Phrase.endsLine_body hp)
  | alt hmem _ ih => exact ih hfresh (Phrase.endsLine_of_mem hp hmem)
  | seqNil | ahead | notAhead => exact hfresh hp
  | seqCons _ _ ih₁ ih₂ => exact ih₂ (ih₁ hfresh) hp
  | commit _ _ ih₁ ih₂ =>
    simp only [Phrase.endsLine, Bool.and_eq_true] at hp
    exact ih₂ (ih₁ hfresh) hp.1
  | otherwise _ ih =>
    simp only [Phrase.endsLine, Bool.and_eq_true] at hp
    exact ih hfresh hp.2
  | optionalNone | manyNil =>
    simp only [Phrase.endsLine, Bool.and_eq_true] at hp
    exact hfresh hp.1
  | optionalSome _ ih =>
    simp only [Phrase.endsLine, Bool.and_eq_true] at hp
    exact ih hfresh hp.2
  | manyCons _ _ ih₁ ih₂ =>
    simp only [Phrase.endsLine, Bool.and_eq_true] at hp
    have hm := ih₁ (fun _ : true = true => hfresh hp.1) hp.2
    exact ih₂ (fun _ : true = true => hm) (by simp [Phrase.endsLine, hp.2])
  | many1 _ _ ih₁ ih₂ =>
    simp only [Phrase.endsLine, Bool.and_eq_true] at hp
    have hm := ih₁ hfresh hp.1
    exact ih₂ (fun _ : true = true => hm) (by simp [Phrase.endsLine, hp.2])
  | node _ ih | checked _ _ ih | plain _ ih => exact ih hfresh hp
  | forced | sepBy | chainHead | chainStep => cases hp

end

end NodeLint.Source
