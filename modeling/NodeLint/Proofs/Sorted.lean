import NodeLint.Text.Words

/-!
# Sorted lists

A strictly sorted list is known by its members. Sets of words are kept as such lists.
-/

namespace NodeLint

variable {α : Type}

/-- Two strictly sorted lists with the same members are equal. -/
theorem Sorted.eq_of_mem_iff {lt : α → α → Prop} (hasymm : ∀ a b, lt a b → ¬ lt b a)
    {as bs : List α} (ha : as.Pairwise lt) (hb : bs.Pairwise lt) (hmem : ∀ x, x ∈ as ↔ x ∈ bs) :
    as = bs := by
  have hne {x y : α} (h : lt x y) : x ≠ y := by
    rintro rfl
    exact hasymm x x h h
  have hperm : as.Perm bs := (List.perm_ext_iff_of_nodup (ha.imp hne) (hb.imp hne)).mpr hmem
  exact List.Perm.eq_of_pairwise (fun x y _ _ hxy hyx => absurd hyx (hasymm x y hxy)) ha hb hperm

/-- Erasing repetitions leaves none. -/
theorem Sorted.nodup_eraseDups [BEq α] [LawfulBEq α] (as : List α) : as.eraseDups.Nodup := by
  cases as with
  | nil => exact List.nodup_nil
  | cons a as =>
    rw [List.eraseDups_cons, List.nodup_cons, List.mem_eraseDups]
    refine ⟨?_, Sorted.nodup_eraseDups (as.filter fun b => !b == a)⟩
    simp
termination_by as.length
decreasing_by exact Nat.lt_succ_of_le (List.length_filter_le _ _)

/-- Sorted without repetitions, each element is before the next and differs from it. -/
theorem Sorted.pairwise_eraseDups [BEq α] [LawfulBEq α] {le : α → α → Bool}
    (htrans : ∀ a b c, le a b = true → le b c = true → le a c = true)
    (htotal : ∀ a b, (le a b || le b a) = true) (as : List α) :
    (as.eraseDups.mergeSort le).Pairwise fun a b => le a b = true ∧ a ≠ b := by
  have hnodup : (as.eraseDups.mergeSort le).Nodup :=
    (List.mergeSort_perm _ le).nodup_iff.mpr (Sorted.nodup_eraseDups as)
  exact (List.pairwise_mergeSort htrans htotal _).and hnodup

/-! ## Sets of words -/

namespace Text

/-- Drop each word that its successor repeats. -/
private def dropRepeated (ss : List String) : List String :=
  ss.foldr (fun s rest => if rest.head? = some s then rest else s :: rest) []

/-- Dropping repetitions drops no word altogether. -/
private theorem mem_dropRepeated (ss : List String) (x : String) :
    x ∈ dropRepeated ss ↔ x ∈ ss := by
  induction ss with
  | nil => rfl
  | cons s ss ih =>
    have hstep : dropRepeated (s :: ss) =
        if (dropRepeated ss).head? = some s then dropRepeated ss else s :: dropRepeated ss := rfl
    rw [hstep]
    split
    · rename_i hhead
      have hs : s ∈ dropRepeated ss := List.mem_of_mem_head? hhead
      rw [ih, List.mem_cons]
      constructor
      · exact Or.inr
      · rintro (rfl | hx)
        · exact ih.mp hs
        · exact hx
    · rw [List.mem_cons, List.mem_cons, ih]

/-- Without repetitions a sorted list is strictly sorted. -/
private theorem pairwise_dropRepeated {ss : List String} (h : ss.Pairwise (· ≤ ·)) :
    (dropRepeated ss).Pairwise (· < ·) := by
  induction ss with
  | nil => exact List.Pairwise.nil
  | cons s ss ih =>
    obtain ⟨hs, hss⟩ := List.pairwise_cons.mp h
    have hrest := ih hss
    have hstep : dropRepeated (s :: ss) =
        if (dropRepeated ss).head? = some s then dropRepeated ss else s :: dropRepeated ss := rfl
    rw [hstep]
    split
    · exact hrest
    · rename_i hhead
      refine List.pairwise_cons.mpr ⟨fun x hx => ?_, hrest⟩
      have hle : ∀ y ∈ dropRepeated ss, s ≤ y := fun y hy => hs y ((mem_dropRepeated ss y).mp hy)
      cases hdrop : dropRepeated ss with
      | nil => simp [hdrop] at hx
      | cons y rest =>
        rw [hdrop] at hrest hhead hx hle
        have hsy : s < y := by
          refine Std.lt_of_le_of_ne (hle y List.mem_cons_self) ?_
          rintro rfl
          exact hhead rfl
        rcases List.mem_cons.mp hx with rfl | hx
        · exact hsy
        · exact Std.lt_trans hsy (List.rel_of_pairwise_cons hrest hx)

/-- A set of words has the words it was made of. -/
theorem mem_sortedSet (ss : List String) (x : String) : x ∈ sortedSet ss ↔ x ∈ ss := by
  rw [sortedSet]
  exact (mem_dropRepeated _ x).trans List.mem_mergeSort

/-- A set of words is strictly sorted. -/
theorem pairwise_sortedSet (ss : List String) : (sortedSet ss).Pairwise (· < ·) := by
  apply pairwise_dropRepeated
  have hsorted : (ss.mergeSort fun a b => a ≤ b).Pairwise fun a b => decide (a ≤ b) = true := by
    apply List.pairwise_mergeSort
    · intro a b c hab hbc
      exact decide_eq_true (String.le_trans (of_decide_eq_true hab) (of_decide_eq_true hbc))
    · intro a b
      simpa using String.le_total a b
  exact hsorted.imp of_decide_eq_true

/-- A strictly sorted list is the set of any words that have the same members. -/
theorem sortedSet_eq {ss sorted : List String} (hsorted : sorted.Pairwise (· < ·))
    (hmem : ∀ x, x ∈ sorted ↔ x ∈ ss) : sortedSet ss = sorted :=
  Sorted.eq_of_mem_iff (fun _ _ => String.lt_asymm) (pairwise_sortedSet ss) hsorted fun x =>
    (mem_sortedSet ss x).trans (hmem x).symm

/-- A set of words does not hang on the order of the words. -/
theorem sortedSet_perm {ss ss' : List String} (h : ss.Perm ss') : sortedSet ss = sortedSet ss' :=
  sortedSet_eq (pairwise_sortedSet ss') fun x => (mem_sortedSet ss' x).trans h.mem_iff.symm

end Text

end NodeLint
