import NodeLint.Pragma
import NodeLint.Source.File
import NodeLint.Proofs.Sorted

/-!
# The pragmas of a file, line by line

Every line gives at most one pragma and is read for itself, so that the pragmas of a file are those
of its lines in turn. A pragma knows the number of its line, and its codes are sorted.
-/

namespace NodeLint

/-- Lines are numbered from one. -/
theorem SourceFile.lineIn_of_pos (lines : List String) {n : Nat} (hn : 0 < n) :
    lineIn lines n = lines[n - 1]? := by
  have hindex : ((n : Int) - 1).toNat = n - 1 := by omega
  rw [lineIn, if_pos (by omega), hindex]

namespace Pragma

/-- A pragma knows the number of its line. -/
theorem line_of_ofLine? {n : Nat} {text : String} {p : Pragma} (h : ofLine? n text = some p) :
    p.line = n := by
  obtain ⟨parts, -, rfl⟩ := Option.map_eq_some_iff.mp h
  rfl

/-- The codes of a pragma are sorted, each once. -/
theorem pairwise_codes_of_ofLine? {n : Nat} {text : String} {p : Pragma}
    (h : ofLine? n text = some p) : p.codes.Pairwise (· < ·) := by
  obtain ⟨parts, -, rfl⟩ := Option.map_eq_some_iff.mp h
  exact Text.pairwise_sortedSet _

/-- The pragmas of lines that follow one another. -/
theorem readFrom_append (first : Nat) (a b : List String) :
    readFrom first (a ++ b) = readFrom first a ++ readFrom (first + a.length) b := by
  induction a generalizing first with
  | nil => rfl
  | cons text a ih =>
    rw [List.cons_append, readFrom, readFrom, ih, List.length_cons, List.append_assoc,
      Nat.add_right_comm, Nat.add_assoc]

/-- A pragma of a file is that of one of its lines. -/
theorem mem_readFrom {first : Nat} {lines : List String} {p : Pragma} :
    p ∈ readFrom first lines ↔
      ∃ n text, lines[n]? = some text ∧ ofLine? (first + n) text = some p := by
  induction lines generalizing first with
  | nil => simp [readFrom]
  | cons text lines ih =>
    rw [readFrom, List.mem_append, Option.mem_toList, ih]
    constructor
    · rintro (h | ⟨n, text', hn, h⟩)
      · exact ⟨0, text, rfl, h⟩
      · exact ⟨n + 1, text', hn, by rwa [Nat.add_assoc, Nat.add_comm 1] at h⟩
    · rintro ⟨n, text', hn, h⟩
      cases n with
      | zero =>
        cases hn
        exact Or.inl h
      | succ n => exact Or.inr ⟨n, text', hn, by rwa [Nat.add_assoc, Nat.add_comm 1]⟩

/-- A pragma of a file is that of the line it names. -/
theorem exists_line {lines : List String} {p : Pragma} (hp : p ∈ read lines) :
    0 < p.line ∧
      ∃ text, SourceFile.lineIn lines p.line = some text ∧ ofLine? p.line text = some p := by
  obtain ⟨n, text, hn, hline⟩ := mem_readFrom.mp hp
  have hnumber := line_of_ofLine? hline
  have hindex : p.line - 1 = n := by omega
  refine ⟨by omega, text, ?_, by rw [hnumber, hline]⟩
  rw [SourceFile.lineIn_of_pos lines (by omega), hindex, hn]

end Pragma
end NodeLint
