import NodeLint.Binding
import NodeLint.Proofs.Sorted

/-!
# Where statements occur

A statement of a file is found by its address: a number that picks one of the statements of the
file, and further numbers that each pick one of the statements directly inside. One and the same
statement may occur at several addresses, so that it is addresses, not statements, that are counted.
In the order of dictionaries an address comes before those below it and behind those of everything
that stands earlier: this order is the pre-order of the tree.
-/

namespace NodeLint.Source.Stmt

/-- The statement at an address below a statement, which is itself at the empty address. -/
def within? (s : Stmt) : List Nat → Option Stmt
  | [] => some s
  | n :: rest => s.body[n]?.bind fun inner => inner.within? rest

/-- The statement at an address of a file. -/
def at? (stmts : List Stmt) : List Nat → Option Stmt
  | [] => none
  | n :: rest => stmts[n]?.bind fun s => s.within? rest

/-- The pre-order of statements that follow one another. -/
theorem preorderAll_append (a b : List Stmt) :
    preorderAll (a ++ b) = preorderAll a ++ preorderAll b := by
  induction a with
  | nil => rfl
  | cons s a ih => rw [List.cons_append, preorderAll, preorderAll, ih, List.append_assoc]

/-- The pre-order visits the statements themselves. -/
theorem mem_preorderAll_of_mem {s : Stmt} {stmts : List Stmt} (h : s ∈ stmts) :
    s ∈ preorderAll stmts := by
  obtain ⟨before, behind, rfl⟩ := List.append_of_mem h
  cases s
  simp [preorderAll_append, preorderAll, preorder]

/-- The addresses are all those of statements that pass a test, in pre-order, each once. -/
structure Lists (stmts : List Stmt) (test : Stmt → Bool) (addresses : List (List Nat)) : Prop where
  ordered : addresses.Pairwise (· < ·)
  complete : ∀ a, a ∈ addresses ↔ ∃ s, at? stmts a = some s ∧ test s = true

/-- There is at most one such list. -/
theorem Lists.unique {stmts : List Stmt} {test : Stmt → Bool} {as bs : List (List Nat)}
    (ha : Lists stmts test as) (hb : Lists stmts test bs) : as = bs :=
  Sorted.eq_of_mem_iff (fun _ _ h => List.lt_asymm h) ha.ordered hb.ordered fun a =>
    (ha.complete a).trans (hb.complete a).symm

mutual

/-- The addresses below a statement, its own first. -/
def addresses : Stmt → List (List Nat)
  | .mk _ _ body => [] :: addressesFrom 0 body

/-- The addresses of statements that are numbered from `n` on. -/
def addressesFrom (n : Nat) : List Stmt → List (List Nat)
  | [] => []
  | s :: rest => s.addresses.map (n :: ·) ++ addressesFrom (n + 1) rest

end

/-- An address starts with the number of a statement. -/
theorem mem_addressesFrom {n : Nat} {stmts : List Stmt} {a : List Nat} :
    a ∈ addressesFrom n stmts ↔
      ∃ m s rest, stmts[m]? = some s ∧ rest ∈ s.addresses ∧ a = (n + m) :: rest := by
  induction stmts generalizing n with
  | nil => simp [addressesFrom]
  | cons s stmts ih =>
    rw [addressesFrom, List.mem_append, List.mem_map, ih]
    constructor
    · rintro (⟨rest, hrest, rfl⟩ | ⟨m, s', rest, hm, hrest, rfl⟩)
      · exact ⟨0, s, rest, rfl, hrest, rfl⟩
      · exact ⟨m + 1, s', rest, hm, hrest, by rw [Nat.add_assoc, Nat.add_comm 1]⟩
    · rintro ⟨m, s', rest, hm, hrest, rfl⟩
      cases m with
      | zero =>
        cases hm
        exact Or.inl ⟨rest, hrest, rfl⟩
      | succ m => exact Or.inr ⟨m, s', rest, hm, hrest, by rw [Nat.add_assoc, Nat.add_comm 1]⟩

/-- The addresses below a statement are those at which something stands. -/
theorem mem_addresses (s : Stmt) (a : List Nat) : a ∈ s.addresses ↔ (s.within? a).isSome := by
  induction a generalizing s with
  | nil =>
    obtain ⟨f, span, body⟩ := s
    simp [addresses, within?]
  | cons n rest ih =>
    obtain ⟨f, span, body⟩ := s
    rw [addresses, List.mem_cons, or_iff_right (List.cons_ne_nil n rest), mem_addressesFrom]
    simp only [within?, Stmt.body]
    constructor
    · rintro ⟨m, s, rest', hm, hrest, heq⟩
      simp only [Nat.zero_add, List.cons.injEq] at heq
      obtain ⟨rfl, rfl⟩ := heq
      rw [hm, Option.bind_some]
      exact (ih s).mp hrest
    · intro h
      cases hn : body[n]? with
      | none => simp [hn] at h
      | some s =>
        rw [hn, Option.bind_some] at h
        exact ⟨n, s, rest, hn, (ih s).mpr h, by rw [Nat.zero_add]⟩

/-- The addresses of a file are those at which something stands. -/
theorem mem_addressesFrom_zero (stmts : List Stmt) (a : List Nat) :
    a ∈ addressesFrom 0 stmts ↔ (at? stmts a).isSome := by
  cases a with
  | nil =>
    rw [mem_addressesFrom]
    simp [at?]
  | cons n rest =>
    have h := mem_addresses (.mk .arm ⟨0, 0, 0, 0⟩ stmts) (n :: rest)
    rw [addresses, List.mem_cons, or_iff_right (List.cons_ne_nil n rest)] at h
    exact h

mutual

/-- The addresses below a statement are in order. -/
theorem pairwise_addresses : (s : Stmt) → s.addresses.Pairwise (· < ·)
  | .mk f span body => by
    rw [addresses, List.pairwise_cons]
    refine ⟨fun a ha => ?_, pairwise_addressesFrom 0 body⟩
    obtain ⟨m, s, rest, -, -, rfl⟩ := mem_addressesFrom.mp ha
    exact List.nil_lt_cons _ _

/-- The addresses of numbered statements are in order. -/
theorem pairwise_addressesFrom (n : Nat) :
    (stmts : List Stmt) → (addressesFrom n stmts).Pairwise (· < ·)
  | [] => List.Pairwise.nil
  | s :: rest => by
    rw [addressesFrom, List.pairwise_append]
    refine ⟨?_, pairwise_addressesFrom (n + 1) rest, ?_⟩
    · refine List.pairwise_map.mpr ((pairwise_addresses s).imp fun h => ?_)
      exact List.cons_lt_cons_iff.mpr (Or.inr ⟨rfl, h⟩)
    · intro a ha b hb
      obtain ⟨a, -, rfl⟩ := List.mem_map.mp ha
      obtain ⟨m, s', b, -, -, rfl⟩ := mem_addressesFrom.mp hb
      refine List.cons_lt_cons_iff.mpr (Or.inl ?_)
      omega

end

mutual

/-- The addresses below a statement give what its pre-order gives. -/
theorem map_within?_addresses : (s : Stmt) → s.addresses.map s.within? = s.preorder.map some
  | .mk f span body => by
    have hbody := map_at?_addressesFrom [] body
    rw [addresses, preorder, List.map_cons, List.map_cons, ← hbody]
    congr 1
    refine List.map_congr_left fun a ha => ?_
    obtain ⟨m, s, rest, -, -, rfl⟩ := mem_addressesFrom.mp ha
    rfl

/-- The addresses of numbered statements give what their pre-order gives. -/
theorem map_at?_addressesFrom (before : List Stmt) : (stmts : List Stmt) →
    (addressesFrom before.length stmts).map (at? (before ++ stmts)) = (preorderAll stmts).map some
  | [] => rfl
  | s :: rest => by
    have hs : (before ++ s :: rest)[before.length]? = some s := by
      rw [List.getElem?_append_right (Nat.le_refl _), Nat.sub_self, List.getElem?_cons_zero]
    have hrest := map_at?_addressesFrom (before ++ [s]) rest
    rw [List.append_assoc, List.singleton_append, List.length_append] at hrest
    rw [addressesFrom, preorderAll, List.map_append, List.map_append, ← map_within?_addresses s,
      ← hrest, List.map_map]
    congr 1
    refine List.map_congr_left fun a _ => ?_
    rw [Function.comp_apply, at?, hs, Option.bind_some]

end

/-- The statements that pass a test are listed by their addresses, and in the order of the text. -/
theorem exists_lists (stmts : List Stmt) (test : Stmt → Bool) :
    ∃ as, Lists stmts test as ∧ as.map (at? stmts) = ((preorderAll stmts).filter test).map some := by
  refine ⟨(addressesFrom 0 stmts).filter fun a => (at? stmts a).any test, ⟨?_, fun a => ?_⟩, ?_⟩
  · exact (pairwise_addressesFrom 0 stmts).filter _
  · rw [List.mem_filter, mem_addressesFrom_zero]
    cases at? stmts a <;> simp
  · have hmap : (addressesFrom 0 stmts).map (at? stmts) = (preorderAll stmts).map some :=
      map_at?_addressesFrom [] stmts
    calc ((addressesFrom 0 stmts).filter fun a => (at? stmts a).any test).map (at? stmts)
      _ = ((addressesFrom 0 stmts).map (at? stmts)).filter (Option.any test) := by
        rw [List.filter_map]; rfl
      _ = ((preorderAll stmts).filter test).map some := by rw [hmap, List.filter_map]; rfl

end NodeLint.Source.Stmt
