import NodeLint.Path
import NodeLint.Proofs.Lines

/-!
# Paths and their texts

A path that was read from a text has proper names only: none is empty or a single dot, and none has
a slash. Such a path is shown as a text that reads as the same path again, whatever the text was
that it was read from, so that no two of them are shown alike.
-/

namespace NodeLint

/-- The pieces of a text have no separator. -/
theorem Text.not_mem_of_mem_pieces {sep : Char} {cs piece : List Char}
    (hpiece : piece ∈ pieces sep cs) : sep ∉ piece := by
  induction cs generalizing piece with
  | nil =>
    rw [List.mem_singleton.mp hpiece]
    exact List.not_mem_nil
  | cons c cs ih =>
    by_cases hc : c = sep
    · subst hc
      rw [pieces_cons_sep, List.mem_cons] at hpiece
      rcases hpiece with rfl | hpiece
      · exact List.not_mem_nil
      · exact ih hpiece
    · obtain ⟨p, ps, hcs, hcons⟩ := pieces_cons_of_ne hc cs
      rw [hcs] at ih
      rw [hcons, List.mem_cons] at hpiece
      rcases hpiece with rfl | hpiece
      · rw [List.mem_cons, not_or]
        exact ⟨Ne.symm hc, ih List.mem_cons_self⟩
      · exact ih (List.mem_cons_of_mem p hpiece)

namespace Path

/-- Whether a name can stand in a path that was read. -/
def IsProper (name : String) : Prop :=
  name.toList ≠ [] ∧ name.toList ≠ ['.'] ∧ '/' ∉ name.toList

/-- Whether a path is what some text is read as. -/
def IsRead (p : Path) : Prop := ∃ text, ofString text = p

theorem isProper_of_mem_names {cs : List Char} {name : String} (hname : name ∈ names cs) :
    IsProper name := by
  rw [names, List.mem_map] at hname
  obtain ⟨piece, hpiece, rfl⟩ := hname
  obtain ⟨hmem, hkept⟩ := List.mem_filter.mp hpiece
  rw [IsProper, String.toList_ofList]
  simp only [ne_eq, Bool.and_eq_true, decide_eq_true_eq] at hkept
  exact ⟨hkept.1, hkept.2, Text.not_mem_of_mem_pieces hmem⟩

/-- Slashes in front give no names. -/
theorem names_cons_slash (cs : List Char) : names ('/' :: cs) = names cs := by
  rw [names, names, Text.pieces_cons_sep]
  rfl

/-- Proper names joined with slashes are read as these names. -/
theorem names_join {parts : List String} (hparts : ∀ name ∈ parts, IsProper name) :
    names (Text.join "/" parts).toList = parts := by
  by_cases hnil : parts = []
  · subst hnil
    rfl
  · have hkept : (parts.map String.toList).filter (fun p => p ≠ [] && p ≠ ['.']) =
        parts.map String.toList := by
      rw [List.filter_eq_self]
      intro piece hpiece
      obtain ⟨name, hname, rfl⟩ := List.mem_map.mp hpiece
      obtain ⟨hempty, hdot, -⟩ := hparts name hname
      exact Bool.and_eq_true_iff.mpr ⟨decide_eq_true hempty, decide_eq_true hdot⟩
    rw [names, Text.pieces_join hnil fun name hname => (hparts name hname).2.2, hkept, List.map_map]
    simp

/-- Proper names joined with slashes do not start with a slash. -/
theorem head?_join_ne {parts : List String} (hparts : ∀ name ∈ parts, IsProper name) :
    (Text.join "/" parts).toList.head? ≠ some '/' := by
  cases parts with
  | nil => exact fun h => nomatch h
  | cons name parts =>
    obtain ⟨hne, -, hslash⟩ := hparts name List.mem_cons_self
    obtain ⟨rest, hjoin⟩ : ∃ rest,
        (Text.join "/" (name :: parts)).toList = name.toList ++ rest := by
      cases parts with
      | nil => exact ⟨[], by simp [Text.join]⟩
      | cons next parts =>
        exact ⟨"/".toList ++ (Text.join "/" (next :: parts)).toList, by simp [Text.join]⟩
    cases hname : name.toList with
    | nil => exact absurd hname hne
    | cons c cs =>
      rw [hjoin, hname, List.cons_append, List.head?_cons]
      rintro ⟨⟩
      exact hslash (hname ▸ List.mem_cons_self)

/-- Up to two slashes in front of anything else are the anchor. -/
theorem anchorOf_append {cs : List Char} (hcs : cs.head? ≠ some '/') (a : Anchor) :
    anchorOf ((anchorText a).toList ++ cs) = a := by
  cases cs with
  | nil => cases a <;> decide
  | cons c cs =>
    have hc : c ≠ '/' := fun h => hcs (by rw [h]; rfl)
    cases a <;> simp [anchorText, anchorOf, hc]

/-- A path with proper names is shown as a text that reads as the path. -/
theorem ofString_text {p : Path} (hp : ∀ name ∈ p.parts, IsProper name) : ofString p.text = p := by
  obtain ⟨a, parts⟩ := p
  by_cases hdot : a = .relative ∧ parts = []
  · obtain ⟨rfl, rfl⟩ := hdot
    decide
  · have htext : (⟨a, parts⟩ : Path).text = anchorText a ++ Text.join "/" parts := by
      rw [text]
      split
      · simp_all
      · rfl
    have hnames : names ((anchorText a).toList ++ (Text.join "/" parts).toList) = parts := by
      cases a <;> simp [anchorText, names_cons_slash, names_join hp]
    rw [ofString, htext, String.toList_append, anchorOf_append (head?_join_ne hp), hnames]

theorem IsRead.ofString_text {p : Path} (hp : p.IsRead) : ofString p.text = p := by
  obtain ⟨text, rfl⟩ := hp
  exact Path.ofString_text fun name => isProper_of_mem_names

/-- Paths that were read and are shown alike are the same path. -/
theorem IsRead.eq_of_text_eq {p q : Path} (hp : p.IsRead) (hq : q.IsRead) (h : p.text = q.text) :
    p = q := by
  rw [← hp.ofString_text, h, hq.ofString_text]

end Path
end NodeLint
