import Mathlib.Data.Prod.Lex
import Mathlib.Data.String.Basic
import NodeLint.Proofs.Suppression

/-!
# Collections of diagnostics

A collection is made by calls, each of which adds one diagnostic or several. It holds what was
added, in that order, and its counts are kept up on the way: whatever the calls are, the count of a
severity is the number of diagnostics that have it.

Diagnostics are shown by their places, and many share one: all breaches about a line are in its
first column. At one place they stay in the order they were added in. Only one list does so, and
the list shown is thus known from what was added. The breaches of a file are added before what its
pragmas leave, and at each place they are shown before it.
-/

namespace NodeLint

namespace Diagnostic

/-- The place of a diagnostic: the text of its path, its line and its column. Places are in the
order of dictionaries. -/
def place (d : Diagnostic) : String ×ₗ Int ×ₗ Int :=
  toLex (d.file.text, toLex (d.location.line, d.location.column))

/-- Diagnostics are compared by their places. -/
theorem notAfter_iff (a b : Diagnostic) : a.notAfter b = true ↔ a.place ≤ b.place := by
  simp only [notAfter, place, Prod.Lex.toLex_le_toLex, Bool.or_eq_true, Bool.and_eq_true,
    decide_eq_true_eq]

end Diagnostic

namespace Collection

/-! ## Calls -/

/-- A call that adds to a collection. -/
inductive Call where
  | add (d : Diagnostic)
  | addAll (ds : List Diagnostic)

/-- The diagnostics that a call adds. -/
def Call.added : Call → List Diagnostic
  | .add d => [d]
  | .addAll ds => ds

/-- What a call makes of a collection. -/
def Call.run (c : Collection) : Call → Collection
  | .add d => c.add d
  | .addAll ds => c.addAll ds

/-- What calls make of a new collection, one after the other. -/
def after (calls : List Call) : Collection := calls.foldl Call.run empty

/-- A call adds its diagnostics. -/
theorem Call.run_eq (c : Collection) (call : Call) : call.run c = c.addAll call.added := by
  cases call <;> rfl

/-- Calls add the diagnostics of each. -/
theorem after_eq (calls : List Call) : after calls = empty.addAll (calls.flatMap Call.added) := by
  have hrun (c : Collection) : calls.foldl Call.run c = c.addAll (calls.flatMap Call.added) := by
    induction calls generalizing c with
    | nil => rfl
    | cons call calls ih =>
      rw [List.foldl_cons, ih, Call.run_eq, List.flatMap_cons]
      exact List.foldl_append.symm
  exact hrun empty

/-- A collection holds what the calls added, in that order. -/
theorem items_after (calls : List Call) : (after calls).items = calls.flatMap Call.added := by
  rw [after_eq, items_addAll]
  rfl

/-- Its counts are those of what it holds. -/
theorem count_after (calls : List Call) (s : Severity) :
    (after calls).count s = (after calls).items.countP fun d => d.severity = s := by
  have hempty : empty.count s = 0 := by cases s <;> rfl
  rw [items_after, after_eq, count_addAll, hempty, Nat.zero_add]

/-- Every diagnostic has one of the three severities. -/
theorem countP_severities (ds : List Diagnostic) :
    (ds.countP fun d => d.severity = .error) + (ds.countP fun d => d.severity = .warn) +
      (ds.countP fun d => d.severity = .off) = ds.length := by
  induction ds with
  | nil => rfl
  | cons d ds ih =>
    rw [List.length_cons, ← ih]
    cases hd : d.severity <;> simp [hd] <;> omega

/-! ## The order of places -/

/-- A list shows items in order: it has the same items, none is before one of an earlier place, and
those of one place are in the order of the items. -/
structure Shows (items shown : List Diagnostic) : Prop where
  perm : shown.Perm items
  ordered : shown.Pairwise fun a b => a.place ≤ b.place
  stable : ∀ place, shown.filter (fun d => d.place = place) = items.filter fun d => d.place = place

/-- In an ordered list nothing is at an earlier place than the first. -/
theorem place_head_le {a d : Diagnostic} {ds : List Diagnostic}
    (h : (a :: ds).Pairwise fun a b => a.place ≤ b.place) (hd : d ∈ a :: ds) :
    a.place ≤ d.place := by
  rcases List.mem_cons.mp hd with rfl | hd
  · exact le_rfl
  · exact List.rel_of_pairwise_cons h hd

/-- Lists that agree at each place have the same members. -/
theorem mem_iff_of_filter_place {as bs : List Diagnostic}
    (hplaces : ∀ place, as.filter (fun d => d.place = place) =
      bs.filter fun d => d.place = place) (d : Diagnostic) : d ∈ as ↔ d ∈ bs := by
  simpa using congrArg (d ∈ ·) (hplaces d.place)

/-- Ordered lists that agree at each place are equal. -/
theorem eq_of_filter_place {as bs : List Diagnostic}
    (ha : as.Pairwise fun a b => a.place ≤ b.place) (hb : bs.Pairwise fun a b => a.place ≤ b.place)
    (hplaces : ∀ place, as.filter (fun d => d.place = place) =
      bs.filter fun d => d.place = place) : as = bs := by
  induction as generalizing bs with
  | nil =>
    refine (List.eq_nil_iff_forall_not_mem.mpr ?_).symm
    intro d hd
    exact nomatch (mem_iff_of_filter_place hplaces d).mpr hd
  | cons a as ih =>
    have hmem := mem_iff_of_filter_place hplaces
    cases bs with
    | nil => exact nomatch (hmem a).mp List.mem_cons_self
    | cons b bs =>
      -- both lists begin with the first diagnostic of the earliest place
      have hplace : a.place = b.place :=
        le_antisymm (place_head_le ha ((hmem b).mpr List.mem_cons_self))
          (place_head_le hb ((hmem a).mp List.mem_cons_self))
      obtain rfl : a = b := by
        have hfirst := hplaces a.place
        simp only [List.filter_cons, hplace, decide_true, if_true] at hfirst
        exact (List.cons.inj hfirst).1
      have hrest (place) : as.filter (fun d => d.place = place) =
          bs.filter fun d => d.place = place := by
        have hall := hplaces place
        simp only [List.filter_cons] at hall
        split at hall
        · exact (List.cons.inj hall).2
        · exact hall
      rw [ih ha.of_cons hb.of_cons hrest]

/-- There is only one such list. -/
theorem Shows.unique {items as bs : List Diagnostic} (ha : Shows items as) (hb : Shows items bs) :
    as = bs :=
  eq_of_filter_place ha.ordered hb.ordered fun place =>
    (ha.stable place).trans (hb.stable place).symm

/-- The diagnostics of a collection are shown in order. -/
theorem shows_sorted (c : Collection) : Shows c.items c.sorted := by
  have htrans (a b d : Diagnostic) (hab : a.notAfter b = true) (hbd : b.notAfter d = true) :
      a.notAfter d = true := by
    rw [Diagnostic.notAfter_iff] at hab hbd ⊢
    exact hab.trans hbd
  have htotal (a b : Diagnostic) : (a.notAfter b || b.notAfter a) = true := by
    rw [Bool.or_eq_true, Diagnostic.notAfter_iff, Diagnostic.notAfter_iff]
    exact le_total a.place b.place
  have hperm : c.sorted.Perm c.items := List.mergeSort_perm c.items Diagnostic.notAfter
  refine ⟨hperm, ?_, ?_⟩
  · refine (List.pairwise_mergeSort htrans htotal c.items).imp ?_
    intro a b hab
    exact (a.notAfter_iff b).mp hab
  · intro place
    -- what is at one place stays a part of the list, and the list has no more at that place
    have hsame : (c.items.filter fun d => d.place = place).Pairwise
        fun a b => a.notAfter b = true := by
      refine List.pairwise_of_forall_mem_list ?_
      intro a ha b hb
      have ha := of_decide_eq_true (List.mem_filter.mp ha).2
      have hb := of_decide_eq_true (List.mem_filter.mp hb).2
      rw [Diagnostic.notAfter_iff, ha, hb]
    have hpart := List.sublist_mergeSort htrans htotal hsame List.filter_sublist
    have hpart := hpart.filter fun d => decide (d.place = place)
    simp only [List.filter_filter, Bool.and_self] at hpart
    exact (hpart.eq_of_length (hperm.filter _).length_eq.symm).symm

/-- Whatever calls made a collection, it holds the diagnostics they added, in that order. The count
of a severity is the number of diagnostics that have it, the counts make up the size, and there are
errors exactly if a diagnostic is one. The diagnostics are shown in order, in the one way there is
to do so. When the diagnostics of a further file are added, then those of one place are shown as
they came: what was there before, the breaches of the file, and what its pragmas leave. -/
theorem after_calls (calls : List Call) :
    let c := after calls
    c.items = calls.flatMap Call.added ∧
    (∀ s, c.count s = c.items.countP fun d => d.severity = s) ∧
    c.count .error + c.count .warn + c.count .off = c.size ∧
    (c.hasErrors = true ↔ ∃ d ∈ c.items, d.severity = .error) ∧
    (∀ shown, Shows c.items shown ↔ shown = c.sorted) ∧
    ∀ (g : Governance) (file : SourceFile) (ds : List Diagnostic) (place : String ×ₗ Int ×ₗ Int),
      let here (d : Diagnostic) : Bool := d.place = place
      (after (calls ++ [.addAll (g.apply file ds)])).sorted.filter here =
        c.items.filter here ++ (g.breaches file).filter here ++
          (ds.filter fun d => ¬ g.Drops file d).filter here := by
  intro c
  have hcount : ∀ s, c.count s = c.items.countP fun d => d.severity = s := count_after calls
  refine ⟨items_after calls, hcount, ?_, ?_, ?_, ?_⟩
  · rw [hcount, hcount, hcount, countP_severities, size]
  · rw [hasErrors, hcount]
    simp [List.countP_pos_iff]
  · intro shown
    constructor
    · intro hshown
      exact hshown.unique c.shows_sorted
    · rintro rfl
      exact c.shows_sorted
  · intro g file ds place here
    have hadded : (after (calls ++ [.addAll (g.apply file ds)])).items =
        c.items ++ g.apply file ds := by
      rw [items_after, items_after, List.flatMap_append, List.flatMap_singleton, Call.added]
    rw [(shows_sorted _).stable place, hadded, Governance.apply_eq, List.filter_append,
      List.filter_append, List.append_assoc]

end Collection
end NodeLint
