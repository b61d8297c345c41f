import Mathlib.Data.List.Induction
import NodeLint.Source.Position
import NodeLint.Proofs.Reader

/-!
# Pieces of a text

A text is cut into pieces at its separators. Behind a first part of the text the pieces are those of
the rest, and before its last separator they are those of the first part alone; only the piece where
the two parts meet takes from both. The lines of a source are the pieces of the text that tokens are
read from, as far as a further line begins.
-/

namespace NodeLint.Text

/-- Dropping stops before a character that is not to be dropped. -/
theorem head?_dropWhile {p : Char → Bool} {cs : List Char} {c : Char}
    (h : (cs.dropWhile p).head? = some c) : p c = false := by
  have hstop := List.head?_dropWhile_not p cs
  rwa [h] at hstop

/-- Taking takes only characters that are to be taken. -/
theorem of_mem_takeWhile {p : Char → Bool} {cs : List Char} {c : Char}
    (h : c ∈ cs.takeWhile p) : p c = true :=
  List.all_eq_true.mp List.all_takeWhile c h

variable (sep : Char)

/-- There is always a piece. -/
theorem pieces_ne_nil (cs : List Char) : pieces sep cs ≠ [] := by
  induction cs with
  | nil => exact List.cons_ne_nil _ _
  | cons c cs ih =>
    rw [pieces]
    split
    · exact List.cons_ne_nil _ _
    · split <;> exact List.cons_ne_nil _ _

/-- A separator ends an empty piece. -/
theorem pieces_cons_sep (cs : List Char) : pieces sep (sep :: cs) = [] :: pieces sep cs := by
  rw [pieces, if_pos rfl]

/-- Any other character belongs to the first piece. -/
theorem pieces_cons_of_ne {sep c : Char} (hc : c ≠ sep) (cs : List Char) :
    ∃ p ps, pieces sep cs = p :: ps ∧ pieces sep (c :: cs) = (c :: p) :: ps := by
  cases hpieces : pieces sep cs with
  | nil => exact absurd hpieces (pieces_ne_nil sep cs)
  | cons p ps =>
    refine ⟨p, ps, rfl, ?_⟩
    rw [pieces, if_neg hc, hpieces]

/-- A text without separators is one piece. -/
theorem pieces_of_not_mem {sep : Char} {cs : List Char} (hcs : sep ∉ cs) : pieces sep cs = [cs] := by
  induction cs with
  | nil => rfl
  | cons c cs ih =>
    rw [List.mem_cons, not_or] at hcs
    obtain ⟨p, ps, hpieces, hcons⟩ := pieces_cons_of_ne (Ne.symm hcs.1) cs
    rw [ih hcs.2, List.cons.injEq] at hpieces
    rw [hcons, ← hpieces.1, ← hpieces.2]

/-- Around a separator a text is cut into the pieces of both sides. -/
theorem pieces_append (cs rest : List Char) :
    pieces sep (cs ++ sep :: rest) = pieces sep cs ++ pieces sep rest := by
  induction cs with
  | nil => exact pieces_cons_sep sep rest
  | cons c cs ih =>
    by_cases hc : c = sep
    · subst hc
      rw [List.cons_append, pieces_cons_sep, pieces_cons_sep, ih, List.cons_append]
    · obtain ⟨p, ps, hcs, hpieces⟩ := pieces_cons_of_ne hc cs
      obtain ⟨q, qs, hall, hpieces'⟩ := pieces_cons_of_ne hc (cs ++ sep :: rest)
      rw [ih, hcs, List.cons_append, List.cons.injEq] at hall
      rw [List.cons_append, hpieces, hpieces', ← hall.1, ← hall.2, List.cons_append]

/-- What stands before the first separator is the first piece. -/
theorem pieces_append_sep {sep : Char} {cs : List Char} (hcs : sep ∉ cs) (rest : List Char) :
    pieces sep (cs ++ sep :: rest) = cs :: pieces sep rest := by
  rw [pieces_append, pieces_of_not_mem hcs, List.singleton_append]

/-- Words joined with slashes are cut into these words, if no word has a slash. -/
theorem pieces_join {names : List String} (hnames : names ≠ [])
    (hslash : ∀ name ∈ names, '/' ∉ name.toList) :
    pieces '/' (join "/" names).toList = names.map String.toList := by
  induction names with
  | nil => exact absurd rfl hnames
  | cons name names ih =>
    have hname : '/' ∉ name.toList := hslash name List.mem_cons_self
    cases names with
    | nil => exact pieces_of_not_mem hname
    | cons next names =>
      have hjoin : (join "/" (name :: next :: names)).toList =
          name.toList ++ '/' :: (join "/" (next :: names)).toList := by
        rw [join, String.toList_append, String.toList_append, List.append_assoc]
        · rfl
        · exact fun h => nomatch h
      have hrest := ih (List.cons_ne_nil _ _) fun n hn => hslash n (List.mem_cons_of_mem _ hn)
      rw [hjoin, pieces_append_sep hname, hrest]
      rfl

/-- There is one piece more than there are separators. -/
theorem length_pieces (cs : List Char) : (pieces sep cs).length = cs.count sep + 1 := by
  induction cs with
  | nil => rfl
  | cons c cs ih =>
    by_cases hc : c = sep
    · subst hc
      rw [pieces_cons_sep, List.length_cons, ih, List.count_cons_self]
    · obtain ⟨p, ps, hcs, hpieces⟩ := pieces_cons_of_ne hc cs
      rw [hpieces, List.length_cons, ← List.length_cons (a := p), ← hcs, ih, List.count_cons_of_ne hc]

/-- Before the last separator of its first part a text has the pieces of that part. -/
theorem getElem?_pieces_append_left (a b : List Char) {n : Nat} (hn : n < a.count sep) :
    (pieces sep (a ++ b))[n]? = (pieces sep a)[n]? := by
  induction a generalizing n with
  | nil => exact absurd hn (Nat.not_lt_zero n)
  | cons c a ih =>
    by_cases hc : c = sep
    · subst hc
      rw [List.cons_append, pieces_cons_sep, pieces_cons_sep]
      cases n with
      | zero => rfl
      | succ n =>
        rw [List.count_cons_self] at hn
        exact ih (by omega)
    · rw [List.count_cons_of_ne hc] at hn
      obtain ⟨p, ps, hcs, hpieces⟩ := pieces_cons_of_ne hc (a ++ b)
      obtain ⟨p', ps', hcs', hpieces'⟩ := pieces_cons_of_ne hc a
      rw [List.cons_append, hpieces, hpieces']
      rw [hcs, hcs'] at ih
      cases n with
      | zero =>
        have hhead := ih hn
        rw [List.getElem?_cons_zero, List.getElem?_cons_zero] at hhead ⊢
        rw [Option.some.inj hhead]
      | succ n =>
        have htail := ih hn
        rwa [List.getElem?_cons_succ, List.getElem?_cons_succ] at htail ⊢

/-- Behind its first part a text has the pieces of the rest, the first of which is not whole. -/
theorem getElem?_pieces_append_right (a b : List Char) {n : Nat} (hn : 0 < n) :
    (pieces sep (a ++ b))[a.count sep + n]? = (pieces sep b)[n]? := by
  induction a with
  | nil => rw [List.nil_append, List.count_nil, Nat.zero_add]
  | cons c a ih =>
    by_cases hc : c = sep
    · subst hc
      rw [List.cons_append, pieces_cons_sep, List.count_cons_self, Nat.add_right_comm,
        List.getElem?_cons_succ, ih]
    · obtain ⟨p, ps, hcs, hpieces⟩ := pieces_cons_of_ne hc (a ++ b)
      rw [List.cons_append, hpieces, List.count_cons_of_ne hc, ← ih, hcs]
      obtain ⟨m, hm⟩ : ∃ m, a.count sep + n = m + 1 := ⟨a.count sep + n - 1, by omega⟩
      rw [hm, List.getElem?_cons_succ, List.getElem?_cons_succ]

/-- A part of a text reaches from one separator, or its start, to the next one, or its end. -/
structure Between (left piece right : List Char) : Prop where
  free : sep ∉ piece
  left : left = [] ∨ left.getLast? = some sep
  right : right = [] ∨ right.head? = some sep

/-- A text is cut into the parts between its separators, in order. -/
theorem getElem?_pieces_iff {sep : Char} {cs piece : List Char} {n : Nat} :
    (pieces sep cs)[n]? = some piece ↔
      ∃ left right, cs = left ++ (piece ++ right) ∧ left.count sep = n ∧
        Between sep left piece right := by
  constructor
  · intro h
    induction cs generalizing n piece with
    | nil =>
      obtain ⟨rfl, rfl⟩ : n = 0 ∧ piece = [] := by simpa [pieces, List.getElem?_cons] using h
      exact ⟨[], [], rfl, rfl, by simp, Or.inl rfl, Or.inl rfl⟩
    | cons c cs ih =>
      by_cases hc : c = sep
      · subst hc
        rw [pieces_cons_sep] at h
        cases n with
        | zero =>
          obtain rfl : piece = [] := by simpa using h.symm
          exact ⟨[], c :: cs, rfl, rfl, by simp, Or.inl rfl, Or.inr rfl⟩
        | succ n =>
          obtain ⟨left, right, rfl, hcount, hfree, hleft, hright⟩ := ih h
          refine ⟨c :: left, right, rfl, by simp [hcount], hfree, Or.inr ?_, hright⟩
          rcases hleft with rfl | hleft
          · rfl
          · simp [List.getLast?_cons, hleft]
      · obtain ⟨p, ps, hcs, hpieces⟩ := pieces_cons_of_ne hc cs
        rw [hpieces] at h
        rw [hcs] at ih
        cases n with
        | zero =>
          obtain rfl : piece = c :: p := by simpa using h.symm
          obtain ⟨left, right, rfl, hcount, hfree, hleft, hright⟩ := ih (n := 0) rfl
          -- the first piece begins where the text does
          obtain rfl : left = [] := by
            apply hleft.resolve_right
            intro hlast
            exact List.count_eq_zero.mp hcount (List.mem_of_getLast? hlast)
          exact ⟨[], right, rfl, rfl, by simp [Ne.symm hc, hfree], Or.inl rfl, hright⟩
        | succ n =>
          obtain ⟨left, right, rfl, hcount, hfree, hleft, hright⟩ := ih (n := n + 1) h
          refine ⟨c :: left, right, rfl, ?_, hfree, Or.inr ?_, hright⟩
          · rw [List.count_cons_of_ne hc, hcount]
          · have hne : left ≠ [] := by
              intro hnil
              simp [hnil] at hcount
            simp [List.getLast?_cons, hleft.resolve_left hne]
  · intro ⟨left, right, hcs, hcount, hfree, hleft, hright⟩
    have hfirst : (pieces sep (piece ++ right))[0]? = some piece := by
      cases right with
      | nil => simp [pieces_of_not_mem hfree]
      | cons c right =>
        obtain rfl : c = sep := by simpa using hright
        simp [pieces_append_sep hfree]
    subst hcs
    cases left using List.reverseRecOn with
    | nil =>
      subst hcount
      exact hfirst
    | append_singleton left c =>
      obtain rfl : c = sep := by simpa using hleft
      have hindex : (left ++ [c]).count c = left.count c + 1 := by simp
      rw [← hcount, hindex, List.append_assoc, getElem?_pieces_append_right c left _ Nat.one_pos,
        List.singleton_append, pieces_cons_sep, List.getElem?_cons_succ, hfirst]

/-- Dropping the empty piece behind a final line ending keeps all pieces before the last. -/
theorem getElem?_dropFinalEmpty (ps : List (List Char)) {n : Nat} (hn : n + 1 < ps.length) :
    (dropFinalEmpty ps)[n]? = ps[n]? := by
  rw [dropFinalEmpty]
  split
  · rw [List.getElem?_dropLast, if_pos (by omega)]
  · rfl

end NodeLint.Text

namespace NodeLint.Source

/-- Tokens are read from a text with unified line ends, to which a line feed may be added. -/
theorem terminated_cases (source : List Char) :
    terminated source = Text.unifyNewlines source ∨
      terminated source = Text.unifyNewlines source ++ ['\n'] := by
  rw [terminated]
  split
  · exact Or.inr rfl
  · exact Or.inl rfl
  · exact Or.inl rfl
  · exact Or.inr rfl

/-- The lines of a source are the pieces of its terminated text, up to the last line break. -/
theorem getElem?_lines (source : List Char) {n : Nat} (hn : n < lineBreaks (terminated source)) :
    (Text.lines source)[n]? = (Text.pieces '\n' (terminated source))[n]? := by
  have hlines {m : Nat} (hm : m < (Text.unifyNewlines source).count '\n') :
      (Text.lines source)[m]? = (Text.pieces '\n' (Text.unifyNewlines source))[m]? := by
    rw [Text.lines, Text.getElem?_dropFinalEmpty]
    rw [Text.length_pieces]
    omega
  rcases terminated_cases source with hchars | hchars <;> rw [hchars] at hn ⊢
  · exact hlines (Nat.lt_of_lt_of_le hn (lineBreaks_le _))
  · rw [lineBreaks, List.dropLast_concat] at hn
    rw [hlines hn, Text.getElem?_pieces_append_left '\n' _ _ hn]

/-- Every line of a source is a piece of its terminated text. -/
theorem getElem?_pieces_terminated {source line : List Char} {n : Nat}
    (h : (Text.lines source)[n]? = some line) :
    (Text.pieces '\n' (terminated source))[n]? = some line := by
  have hpieces : (Text.pieces '\n' (Text.unifyNewlines source))[n]? = some line := by
    rw [Text.lines, Text.dropFinalEmpty] at h
    split at h
    · rw [List.getElem?_dropLast, Option.ite_none_right_eq_some] at h
      exact h.2
    · exact h
  rcases terminated_cases source with hchars | hchars <;> rw [hchars]
  · exact hpieces
  · -- a line feed behind the last piece ends it there
    obtain ⟨left, right, hsplit, hcount, hfree, hleft, hright⟩ :=
      Text.getElem?_pieces_iff.mp hpieces
    apply Text.getElem?_pieces_iff.mpr
    refine ⟨left, right ++ ['\n'], by simp [hsplit], hcount, hfree, hleft, Or.inr ?_⟩
    rcases hright with rfl | hright
    · rfl
    · rw [List.head?_append, hright, Option.some_or]

end NodeLint.Source
