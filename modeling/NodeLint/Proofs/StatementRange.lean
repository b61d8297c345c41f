import NodeLint.Pragma.StatementRange
import NodeLint.Proofs.Occurrence

/-!
# The lines statements are introduced on

The ranges of a file are collected level by level, and a line that is occupied stays so. Looked up
afterwards, a line gives the first statement of the level order that is introduced on it. The level
order visits every statement of the file once, so that no line of a statement is missing. It comes
to a statement before what the statement holds: where nothing else is introduced on a line, the line
has the range of that statement.
-/

namespace NodeLint.StatementRanges

open Source

/-! ## The level order -/

/-- The statements of several lists are counted one list after the other. -/
theorem sizeAll_append (a b : List Stmt) : sizeAll (a ++ b) = sizeAll a + sizeAll b := by
  induction a with
  | nil => rw [List.nil_append, sizeAll, Nat.zero_add]
  | cons s a ih => rw [List.cons_append, sizeAll, sizeAll, ih, Nat.add_assoc]

/-- With enough fuel the level order visits what the pre-order visits. -/
theorem levelOrder_perm (fuel : Nat) (queue : List Stmt) (hfuel : sizeAll queue ≤ fuel) :
    (levelOrder fuel queue).Perm (Stmt.preorderAll queue) := by
  induction fuel generalizing queue with
  | zero =>
    cases queue with
    | nil => exact List.Perm.refl _
    | cons s queue =>
      obtain ⟨f, span, body⟩ := s
      rw [sizeAll, size] at hfuel
      omega
  | succ fuel ih =>
    cases queue with
    | nil => exact List.Perm.refl _
    | cons s queue =>
      obtain ⟨f, span, body⟩ := s
      have hrest : sizeAll (queue ++ body) ≤ fuel := by
        rw [sizeAll, size] at hfuel
        rw [sizeAll_append]
        omega
      rw [levelOrder, Stmt.preorderAll, Stmt.preorder, List.cons_append]
      refine List.Perm.cons _ ((ih (queue ++ body) hrest).trans ?_)
      rw [Stmt.preorderAll_append]
      exact List.perm_append_comm

/-! ## Looking a line up -/

/-- A line that is occupied keeps its statement. -/
theorem lookup_occupy (ranges : StatementRanges) (line last l : Nat) :
    (occupy ranges line last).lookup l =
      (ranges.lookup l).or (if l = line then some last else none) := by
  rw [occupy]
  split
  · rename_i hoccupied
    by_cases hl : l = line
    · obtain ⟨old, hold⟩ := Option.isSome_iff_exists.mp hoccupied
      rw [hl, hold, Option.some_or]
    · rw [if_neg hl, Option.or_none]
  · have hsingle : [(line, last)].lookup l = if l = line then some last else none := by
      by_cases hl : l = line
      · simp [hl]
      · have hbeq : (l == line) = false := beq_eq_false_iff_ne.mpr hl
        rw [List.lookup_cons, hbeq, if_neg hl, List.lookup_nil]
    rw [List.lookup_append, hsingle]

/-- The lines of one more statement are occupied unless they were before. -/
theorem lookup_occupyAll (ranges : StatementRanges) (s : Stmt) (l : Nat) :
    (occupyAll ranges s).lookup l =
      (ranges.lookup l).or (if l ∈ introducing s then some s.endLine else none) := by
  have hrun (lines : List Nat) (ranges : StatementRanges) :
      (lines.foldl (fun r line => occupy r line s.endLine) ranges).lookup l =
        (ranges.lookup l).or (if l ∈ lines then some s.endLine else none) := by
    induction lines generalizing ranges with
    | nil => simp
    | cons line lines ih =>
      rw [List.foldl_cons, ih, lookup_occupy, Option.or_assoc]
      congr 1
      by_cases hl : l = line <;> simp [hl]
  exact hrun (introducing s) ranges

/-- A line has the range of the first statement of the level order that is introduced on it. -/
theorem lastLine?_ofStmts (stmts : List Stmt) (l : Nat) :
    (ofStmts stmts).lastLine? l = (levelOrder (sizeAll stmts) stmts).findSome?
      fun s => if l ∈ introducing s then some s.endLine else none := by
  have hrun (visited : List Stmt) (ranges : StatementRanges) :
      (visited.foldl occupyAll ranges).lookup l = (ranges.lookup l).or
        (visited.findSome? fun s => if l ∈ introducing s then some s.endLine else none) := by
    induction visited generalizing ranges with
    | nil => simp
    | cons s visited ih =>
      rw [List.foldl_cons, ih, lookup_occupyAll, Option.or_assoc, List.findSome?_cons]
      congr 1
      split <;> rfl
  exact hrun _ []

/-- A line has no range exactly if no statement of the file is introduced on it. -/
theorem lastLine?_eq_none_iff (stmts : List Stmt) (l : Nat) :
    (ofStmts stmts).lastLine? l = none ↔ ∀ s ∈ Stmt.preorderAll stmts, l ∉ introducing s := by
  rw [lastLine?_ofStmts, List.findSome?_eq_none_iff]
  have hmem (s : Stmt) := (levelOrder_perm _ stmts (Nat.le_refl _)).mem_iff (a := s)
  simp [hmem]

/-! ## Lines that belong to one statement -/

/-- No statement at any depth is introduced on a line. -/
def Free (l : Nat) (stmts : List Stmt) : Prop :=
  ∀ s ∈ Stmt.preorderAll stmts, l ∉ introducing s

section
variable {l : Nat} {d s : Stmt} {stmts a b : List Stmt}

/-- Without statements every line is free. -/
theorem free_nil : Free l [] := nofun

/-- The statements of two lists are those of each. -/
theorem free_append : Free l (a ++ b) ↔ Free l a ∧ Free l b := by
  simp only [Free, Stmt.preorderAll_append, List.mem_append, or_imp, forall_and]

/-- A statement and others behind it. -/
theorem free_cons : Free l (s :: stmts) ↔ Free l [s] ∧ Free l stmts := free_append (a := [s])

/-- On a line where a statement and its body are free, the body is. -/
theorem Free.body (h : Free l [s]) : Free l s.body := by
  intro inner hinner
  apply h inner
  obtain ⟨form, span, body⟩ := s
  rw [Stmt.preorderAll, Stmt.preorder]
  exact List.mem_append_left _ (List.mem_cons_of_mem _ hinner)

/-- Only a statement and what it holds are introduced on a line; the statements around it are
introduced on earlier lines. -/
inductive Sole (l : Nat) (d : Stmt) : List Stmt → Prop where
  | here {rest : List Stmt} (hrest : Free l rest) : Sole l d (d :: rest)
  | inside {s : Stmt} {rest : List Stmt} (hs : ∀ first ∈ introducing s, first < l)
      (hbody : Sole l d s.body) (hrest : Free l rest) : Sole l d (s :: rest)
  | behind {s : Stmt} {rest : List Stmt} (hs : Free l [s]) (hrest : Sole l d rest) :
      Sole l d (s :: rest)

namespace Sole

/-- Further statements that are not introduced on the line change nothing. -/
theorem append_right (h : Sole l d a) (hb : Free l b) : Sole l d (a ++ b) := by
  induction h with
  | here hrest => exact .here (free_append.mpr ⟨hrest, hb⟩)
  | inside hs hbody hrest _ => exact .inside hs hbody (free_append.mpr ⟨hrest, hb⟩)
  | behind hs _ ih => exact .behind hs ih

/-- Nor do such statements in front. -/
theorem append_left (ha : Free l a) (h : Sole l d b) : Sole l d (a ++ b) := by
  induction a with
  | nil => exact h
  | cons s a ih =>
    obtain ⟨hs, ha⟩ := free_cons.mp ha
    exact .behind hs (ih ha)

/-- What is introduced on the line is the statement or in it. -/
theorem eq_or_mem (h : Sole l d stmts) (hs : s ∈ Stmt.preorderAll stmts) (hl : l ∈ introducing s) :
    s = d ∨ s ∈ Stmt.preorderAll d.body := by
  have hhead {s' : Stmt} {rest : List Stmt} (hs : s ∈ Stmt.preorderAll (s' :: rest)) :
      s = s' ∨ s ∈ Stmt.preorderAll s'.body ∨ s ∈ Stmt.preorderAll rest := by
    obtain ⟨form, span, body⟩ := s'
    rw [Stmt.preorderAll, Stmt.preorder, List.cons_append, List.mem_cons, List.mem_append] at hs
    exact hs
  induction h with
  | here hrest =>
    rcases hhead hs with rfl | hs | hs
    · exact Or.inl rfl
    · exact Or.inr hs
    · exact absurd hl (hrest s hs)
  | inside hs' _ hrest ih =>
    rcases hhead hs with rfl | hs | hs
    · exact absurd (hs' l hl) (Nat.lt_irrefl l)
    · exact ih hs
    · exact absurd hl (hrest s hs)
  | behind hs' _ ih =>
    rcases hhead hs with rfl | hs | hs
    · exact absurd hl (hs' s (Stmt.mem_preorderAll_of_mem List.mem_cons_self))
    · exact absurd hl (hs'.body s hs)
    · exact ih hs

/-- The level order comes to the statement before anything else that is introduced on the line. -/
theorem findSome?_levelOrder (hl : l ∈ introducing d) (fuel : Nat) {queue : List Stmt}
    (h : Sole l d queue) (hfuel : sizeAll queue ≤ fuel) :
    (levelOrder fuel queue).findSome?
      (fun s => if l ∈ introducing s then some s.endLine else none) = some d.endLine := by
  induction fuel generalizing queue with
  | zero =>
    cases queue with
    | nil => cases h
    | cons s queue =>
      obtain ⟨form, span, body⟩ := s
      rw [sizeAll, size] at hfuel
      omega
  | succ fuel ih =>
    have hstep {s : Stmt} {rest : List Stmt} (hfuel : sizeAll (s :: rest) ≤ fuel + 1) :
        sizeAll (rest ++ s.body) ≤ fuel := by
      obtain ⟨form, span, body⟩ := s
      rw [sizeAll, size] at hfuel
      rw [sizeAll_append, Stmt.body]
      omega
    cases h with
    | here hrest => rw [levelOrder, List.findSome?_cons, if_pos hl]
    | inside hs hbody hrest =>
      have hnot : l ∉ introducing _ := fun hmem => Nat.lt_irrefl l (hs l hmem)
      rw [levelOrder, List.findSome?_cons, if_neg hnot]
      exact ih (append_left hrest hbody) (hstep hfuel)
    | behind hs hrest =>
      have hnot : l ∉ introducing _ := hs _ (Stmt.mem_preorderAll_of_mem List.mem_cons_self)
      rw [levelOrder, List.findSome?_cons, if_neg hnot]
      exact ih (hrest.append_right hs.body) (hstep hfuel)

/-- The range of the line is that of the statement. -/
theorem lastLine? (h : Sole l d stmts) (hl : l ∈ introducing d) :
    (ofStmts stmts).lastLine? l = some d.endLine := by
  rw [lastLine?_ofStmts]
  exact h.findSome?_levelOrder hl _ (Nat.le_refl _)

end Sole
end

end NodeLint.StatementRanges
