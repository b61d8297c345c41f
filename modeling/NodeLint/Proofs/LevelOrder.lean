import Mathlib.Data.List.Shortlex
import NodeLint.Proofs.StatementRange

/-!
# Statements level by level

The level order takes the statements of a file from a queue: the first in the queue is visited, and
what it holds is put at the end. In terms of addresses, a shorter one is visited before a longer
one, and of two that are equally long the one that is first in the order of dictionaries.

The queue has no levels, so this is shown of each of its states: the addresses in it are in order,
and what is below one of them comes behind all others. Every step keeps that. A line has therefore
the range of the outermost statement introduced on it, and among several equally deep ones that of
the first.
-/

namespace NodeLint

namespace Source.Stmt

/-! ## Addresses -/

/-- An address leads to a statement, and from there on. -/
theorem within?_append (s : Stmt) (a b : List Nat) :
    s.within? (a ++ b) = (s.within? a).bind fun t => t.within? b := by
  induction a generalizing s with
  | nil => rfl
  | cons n a ih =>
    rw [List.cons_append, within?, within?, Option.bind_assoc]
    exact Option.bind_congr fun t _ => ih t

/-- The same for the addresses of a file. -/
theorem at?_append {stmts : List Stmt} {a : List Nat} {s : Stmt} (hs : at? stmts a = some s)
    (b : List Nat) : at? stmts (a ++ b) = s.within? b := by
  cases a with
  | nil => cases hs
  | cons n a =>
    rw [at?] at hs
    obtain ⟨t, ht, hs⟩ := Option.bind_eq_some_iff.mp hs
    rw [List.cons_append, at?, ht, Option.bind_some, within?_append, hs, Option.bind_some]

/-- The statements of a file at any depth are those at its addresses. -/
theorem mem_preorderAll_iff {stmts : List Stmt} {s : Stmt} :
    s ∈ preorderAll stmts ↔ ∃ a, at? stmts a = some s := by
  have hmap : (addressesFrom 0 stmts).map (at? stmts) = (preorderAll stmts).map some :=
    map_at?_addressesFrom [] stmts
  have hmem : some s ∈ (preorderAll stmts).map some ↔ s ∈ preorderAll stmts := by simp
  rw [← hmem, ← hmap, List.mem_map]
  constructor
  · intro ⟨a, _, ha⟩
    exact ⟨a, ha⟩
  · intro ⟨a, ha⟩
    exact ⟨a, (mem_addressesFrom_zero stmts a).mpr (by rw [ha]; rfl), ha⟩

/-- The addresses directly below one, for so many statements as there are. -/
def addressesBelow (a : List Nat) (body : List Stmt) : List (List Nat) :=
  (List.range body.length).map fun n => a ++ [n]

/-- At the addresses below a statement is what it holds. -/
theorem map_at?_addressesBelow {stmts body : List Stmt} {a : List Nat}
    (h : ∀ n, at? stmts (a ++ [n]) = body[n]?) :
    (addressesBelow a body).map (at? stmts) = body.map some := by
  apply List.ext_getElem
  · simp [addressesBelow]
  · intro n _ hn
    simp [addressesBelow, h]

/-- The first statement below another one, on the way to an address. -/
theorem exists_below {stmts : List Stmt} {a v : List Nat} {s : Stmt} (hs : at? stmts a = some s)
    (hv : (at? stmts v).isSome) (hav : a <+: v) :
    v = a ∨ ∃ b ∈ addressesBelow a s.body, b <+: v := by
  obtain ⟨rest, rfl⟩ := hav
  cases rest with
  | nil => exact Or.inl (List.append_nil a)
  | cons n rest =>
    rw [at?_append hs, within?] at hv
    have hn : n < s.body.length := by
      by_contra hn
      simp [List.getElem?_eq_none (Nat.le_of_not_lt hn)] at hv
    refine Or.inr ⟨a ++ [n], ?_, rest, by simp⟩
    exact List.mem_map_of_mem (List.mem_range.mpr hn)

end Source.Stmt

namespace StatementRanges

open Source Stmt

/-! ## The queue -/

/-- An address is visited before another one: it is shorter, or equally long and first in the order
of dictionaries. -/
def Before : List Nat → List Nat → Prop := List.Shortlex (· < ·)

section
variable {a b v : List Nat}

/-- An address is visited before those below it. -/
theorem before_below (a : List Nat) (n : Nat) : Before a (a ++ [n]) :=
  .of_length_lt (by simp)

/-- What is visited before an address is visited before all that is below it. -/
theorem Before.of_below (h : Before a b) (hv : b <+: v) : Before a v := by
  obtain ⟨rest, rfl⟩ := hv
  exact h.append_right rest

/-- What is below an address is visited before what is below a later one. -/
theorem Before.below_below (h : Before a b) (m n : Nat) : Before (a ++ [m]) (b ++ [n]) := by
  rcases List.shortlex_def.mp h with hlt | ⟨heq, hlex⟩
  · exact .of_length_lt (by simpa using hlt)
  · refine .of_lex (by simpa using heq) ?_
    clear h
    induction hlex with
    | nil => cases heq
    | rel hr => exact .rel hr
    | cons _ ih => exact .cons (ih (Nat.succ.inj heq))

end

/-- The addresses in a queue are in order, and what is below one of them comes behind all others. -/
def Queued (queue : List (List Nat)) : Prop :=
  queue.Pairwise fun a b => Before a b ∧ ∀ n, Before b (a ++ [n])

/-- The addresses below one are in order. -/
theorem queued_addressesBelow (a : List Nat) (body : List Stmt) :
    Queued (addressesBelow a body) := by
  refine List.pairwise_map.mpr (List.pairwise_lt_range.imp ?_)
  intro m n hlt
  refine ⟨?_, fun k => .of_length_lt (by simp)⟩
  exact .append_left ((List.shortlex_singleton_iff m n).mpr hlt) a

/-- A step takes the first address from the queue and puts those below it at the end. -/
theorem Queued.step {a : List Nat} {queue : List (List Nat)} (h : Queued (a :: queue))
    (body : List Stmt) : Queued (queue ++ addressesBelow a body) := by
  obtain ⟨hfirst, hqueue⟩ := List.pairwise_cons.mp h
  refine List.pairwise_append.mpr ⟨hqueue, queued_addressesBelow a body, ?_⟩
  intro b hb v hv
  obtain ⟨n, -, rfl⟩ := List.mem_map.mp hv
  exact ⟨(hfirst b hb).2 n, fun m => (hfirst b hb).1.below_below n m⟩

/-- From the addresses in a queue on, addresses are visited: all at which something stands, each
once and in order. What stands there is listed beside them. -/
structure Visits (stmts : List Stmt) (queue visited : List (List Nat)) (listed : List Stmt) :
    Prop where
  ordered : visited.Pairwise Before
  stands : visited.map (at? stmts) = listed.map some
  complete : ∀ v, v ∈ visited ↔ (at? stmts v).isSome ∧ ∃ a ∈ queue, a <+: v

/-- From an empty queue nothing is visited. -/
theorem visits_nil (stmts : List Stmt) : Visits stmts [] [] [] := by
  refine ⟨.nil, rfl, ?_⟩
  intro v
  simp

/-- The first address in the queue is visited before all that the queue then leads to. -/
theorem Visits.step {stmts : List Stmt} {a : List Nat} {queue visited : List (List Nat)} {s : Stmt}
    {listed : List Stmt} (hqueued : Queued (a :: queue)) (ha : at? stmts a = some s)
    (h : Visits stmts (queue ++ addressesBelow a s.body) visited listed) :
    Visits stmts (a :: queue) (a :: visited) (s :: listed) := by
  refine ⟨List.pairwise_cons.mpr ⟨?_, h.ordered⟩, ?_, ?_⟩
  · intro v hv
    obtain ⟨-, b, hb, hbv⟩ := (h.complete v).mp hv
    apply Before.of_below _ hbv
    rcases List.mem_append.mp hb with hb | hb
    · exact (List.rel_of_pairwise_cons hqueued hb).1
    · obtain ⟨n, -, rfl⟩ := List.mem_map.mp hb
      exact before_below a n
  · rw [List.map_cons, List.map_cons, ha, h.stands]
  · intro v
    rw [List.mem_cons, h.complete]
    constructor
    · rintro (rfl | ⟨hv, b, hb, hbv⟩)
      · exact ⟨by rw [ha]; rfl, v, List.mem_cons_self, List.prefix_rfl⟩
      · refine ⟨hv, ?_⟩
        rcases List.mem_append.mp hb with hb | hb
        · exact ⟨b, List.mem_cons_of_mem a hb, hbv⟩
        · obtain ⟨n, -, rfl⟩ := List.mem_map.mp hb
          exact ⟨a, List.mem_cons_self, (List.prefix_append a [n]).trans hbv⟩
    · intro ⟨hv, b, hb, hbv⟩
      rcases List.mem_cons.mp hb with rfl | hb
      · rcases exists_below ha hv hbv with rfl | ⟨c, hc, hcv⟩
        · exact Or.inl rfl
        · exact Or.inr ⟨hv, c, List.mem_append_right queue hc, hcv⟩
      · exact Or.inr ⟨hv, b, List.mem_append_left _ hb, hbv⟩

/-- With enough fuel the level order lists what is visited from a queue in order. -/
theorem exists_visits_levelOrder (stmts : List Stmt) (fuel : Nat) {waiting : List Stmt}
    {queue : List (List Nat)} (hqueued : Queued queue)
    (hqueue : queue.map (at? stmts) = waiting.map some) (hfuel : sizeAll waiting ≤ fuel) :
    ∃ visited, Visits stmts queue visited (levelOrder fuel waiting) := by
  induction fuel generalizing waiting queue with
  | zero =>
    cases waiting with
    | nil =>
      obtain rfl := List.map_eq_nil_iff.mp hqueue
      exact ⟨[], visits_nil stmts⟩
    | cons s waiting =>
      obtain ⟨form, span, body⟩ := s
      rw [sizeAll, size] at hfuel
      omega
  | succ fuel ih =>
    cases waiting with
    | nil =>
      obtain rfl := List.map_eq_nil_iff.mp hqueue
      exact ⟨[], visits_nil stmts⟩
    | cons s waiting =>
      obtain ⟨a, queue, rfl, ha, hqueue⟩ := List.map_eq_cons_iff.mp hqueue
      -- addresses and statements leave and enter the queue in step
      have hbelow : (addressesBelow a s.body).map (at? stmts) = s.body.map some := by
        apply map_at?_addressesBelow
        intro n
        rw [at?_append ha, within?]
        cases s.body[n]? <;> rfl
      have hrest : sizeAll (waiting ++ s.body) ≤ fuel := by
        obtain ⟨form, span, body⟩ := s
        rw [sizeAll, size] at hfuel
        rw [sizeAll_append, Stmt.body]
        omega
      obtain ⟨visited, hvisits⟩ := ih (hqueued.step s.body)
        (by rw [List.map_append, List.map_append, hqueue, hbelow]) hrest
      exact ⟨a :: visited, hvisits.step hqueued ha⟩

/-- The level order of a file visits all its addresses, each once and in order. -/
theorem exists_visited (stmts : List Stmt) :
    ∃ visited : List (List Nat), visited.Pairwise Before ∧
      visited.map (at? stmts) = (levelOrder (sizeAll stmts) stmts).map some ∧
      ∀ v, v ∈ visited ↔ (at? stmts v).isSome := by
  have hstart : (addressesBelow [] stmts).map (at? stmts) = stmts.map some := by
    apply map_at?_addressesBelow
    intro n
    rw [List.nil_append, at?]
    cases stmts[n]? <;> rfl
  obtain ⟨visited, hvisits⟩ :=
    exists_visits_levelOrder stmts _ (queued_addressesBelow [] stmts) hstart (Nat.le_refl _)
  refine ⟨visited, hvisits.ordered, hvisits.stands, ?_⟩
  intro v
  rw [hvisits.complete, and_iff_left_iff_imp]
  intro hv
  cases v with
  | nil => cases hv
  | cons n rest =>
    have hn : n < stmts.length := by
      by_contra hn
      simp [at?, List.getElem?_eq_none (Nat.le_of_not_gt hn)] at hv
    exact ⟨[n], List.mem_map_of_mem (List.mem_range.mpr hn), rest, rfl⟩

/-! ## The first statement on a line -/

/-- A statement is introduced on its first line, and a decorated definition also on the first line
of its decorators. -/
def IntroducedOn (l : Nat) (s : Stmt) : Prop :=
  s.isStatement = true ∧
    (s.line = l ∨ (∃ e ∈ s.decorators, e.span.line = l) ∧ ∀ e ∈ s.decorators, l ≤ e.span.line)

/-- The statement at an address is the first on a line: of those introduced on the line none is less
deep, and among the equally deep ones none comes before it in the text. -/
structure FirstOn (stmts : List Stmt) (l : Nat) (a : List Nat) (s : Stmt) : Prop where
  stands : at? stmts a = some s
  introduced : IntroducedOn l s
  shallowest : ∀ b t, at? stmts b = some t → IntroducedOn l t → a.length ≤ b.length
  first : ∀ b t, at? stmts b = some t → IntroducedOn l t → a.length = b.length →
    a = b ∨ List.Lex (· < ·) a b

section
variable {stmts : List Stmt} {l : Nat} {a b : List Nat} {s t : Stmt}

/-- The lines collected for a statement are those it is introduced on. -/
theorem mem_introducing_iff : l ∈ introducing s ↔ IntroducedOn l s := by
  have hfirst : l ∈ (firstLine? s.decorators).toList ↔
      (∃ e ∈ s.decorators, e.span.line = l) ∧ ∀ e ∈ s.decorators, l ≤ e.span.line := by
    rw [Option.mem_toList, firstLine?, List.min?_eq_some_iff, List.mem_map, List.forall_mem_map]
  rw [introducing, IntroducedOn]
  split
  · rename_i hstatement
    rw [List.mem_cons, hfirst, eq_comm, and_iff_right hstatement]
  · rename_i hstatement
    simp [hstatement]

/-- A line has a range exactly if a statement is introduced on it. -/
theorem isSome_lastLine?_iff :
    ((ofStmts stmts).lastLine? l).isSome ↔ ∃ a s, at? stmts a = some s ∧ IntroducedOn l s := by
  rw [Option.isSome_iff_ne_none, ne_eq, lastLine?_eq_none_iff]
  push Not
  constructor
  · intro ⟨s, hs, hl⟩
    obtain ⟨a, ha⟩ := mem_preorderAll_iff.mp hs
    exact ⟨a, s, ha, mem_introducing_iff.mp hl⟩
  · intro ⟨a, s, ha, hl⟩
    exact ⟨s, mem_preorderAll_iff.mpr ⟨a, ha⟩, mem_introducing_iff.mpr hl⟩

/-- There is one first statement on a line at most. -/
theorem FirstOn.unique (ha : FirstOn stmts l a s) (hb : FirstOn stmts l b t) : a = b ∧ s = t := by
  have hlength : a.length = b.length :=
    Nat.le_antisymm (ha.shallowest b t hb.stands hb.introduced)
      (hb.shallowest a s ha.stands ha.introduced)
  obtain rfl : a = b := by
    rcases ha.first b t hb.stands hb.introduced hlength with heq | hab
    · exact heq
    · rcases hb.first a s ha.stands ha.introduced hlength.symm with heq | hba
      · exact heq.symm
      · exact absurd hba (asymm hab)
  exact ⟨rfl, Option.some.inj (ha.stands.symm.trans hb.stands)⟩

/-- What is visited before all others that are introduced on a line is the first on it. -/
theorem firstOn_of_before (ha : at? stmts a = some s) (hl : IntroducedOn l s)
    (hbefore : ∀ b t, at? stmts b = some t → IntroducedOn l t → b = a ∨ Before a b) :
    FirstOn stmts l a s := by
  refine ⟨ha, hl, ?_, ?_⟩
  · intro b t hb ht
    rcases hbefore b t hb ht with rfl | hab
    · exact Nat.le_refl _
    · rcases List.shortlex_def.mp hab with hlt | ⟨heq, -⟩ <;> omega
  · intro b t hb ht hlength
    rcases hbefore b t hb ht with rfl | hab
    · exact Or.inl rfl
    · rcases List.shortlex_def.mp hab with hlt | ⟨-, hlex⟩
      · omega
      · exact Or.inr hlex

/-- A line with a range has that of the first statement on it. -/
theorem exists_firstOn {last : Nat} (h : (ofStmts stmts).lastLine? l = some last) :
    ∃ a s, FirstOn stmts l a s ∧ s.endLine = last := by
  obtain ⟨visited, hordered, hstands, hcomplete⟩ := exists_visited stmts
  -- the search through the statements is one through their addresses
  have hsearch (f : Stmt → Option Nat) : (levelOrder (sizeAll stmts) stmts).findSome? f =
      visited.findSome? fun v => (at? stmts v).bind f := by
    calc (levelOrder (sizeAll stmts) stmts).findSome? f
        = ((levelOrder (sizeAll stmts) stmts).map some).findSome? fun s? => s?.bind f := by
          rw [List.findSome?_map]
          rfl
      _ = visited.findSome? fun v => (at? stmts v).bind f := by
          rw [← hstands, List.findSome?_map]
          rfl
  rw [lastLine?_ofStmts, hsearch, List.findSome?_eq_some_iff] at h
  obtain ⟨before, a, behind, rfl, ha, hnone⟩ := h
  obtain ⟨s, ha, hs⟩ := Option.bind_eq_some_iff.mp ha
  rw [Option.ite_none_right_eq_some, mem_introducing_iff] at hs
  refine ⟨a, s, firstOn_of_before ha hs.1 ?_, Option.some.inj hs.2⟩
  intro b t hb ht
  have hmem : b ∈ before ++ a :: behind := (hcomplete b).mpr (by rw [hb]; rfl)
  rcases List.mem_append.mp hmem with hbefore | hbehind
  · have hskipped := hnone b hbefore
    rw [hb, Option.bind_some, if_pos (mem_introducing_iff.mpr ht)] at hskipped
    cases hskipped
  · rcases List.mem_cons.mp hbehind with rfl | hbehind
    · exact Or.inl rfl
    · exact Or.inr (List.rel_of_pairwise_cons (List.pairwise_append.mp hordered).2.1 hbehind)

/-- The range of a line is that of the first statement on it. -/
theorem lastLine?_eq_some_iff {last : Nat} :
    (ofStmts stmts).lastLine? l = some last ↔ ∃ a s, FirstOn stmts l a s ∧ s.endLine = last := by
  constructor
  · exact exists_firstOn
  · intro ⟨a, s, hfirst, hend⟩
    have hsome := isSome_lastLine?_iff.mpr ⟨a, s, hfirst.stands, hfirst.introduced⟩
    obtain ⟨last', hlast⟩ := Option.isSome_iff_exists.mp hsome
    obtain ⟨b, t, hfirst', hend'⟩ := exists_firstOn hlast
    obtain ⟨-, rfl⟩ := hfirst.unique hfirst'
    rw [hlast, ← hend, ← hend']

/-- A statement that holds all others introduced on its line is the first on it. -/
theorem firstOn_of_encloses (ha : at? stmts a = some s) (hl : IntroducedOn l s)
    (hencloses : ∀ b t, at? stmts b = some t → IntroducedOn l t → a <+: b) :
    FirstOn stmts l a s := by
  apply firstOn_of_before ha hl
  intro b t hb ht
  obtain ⟨rest, rfl⟩ := hencloses b t hb ht
  cases rest with
  | nil => exact Or.inl (List.append_nil a)
  | cons n rest => exact Or.inr (.of_length_lt (by simp))

end

end StatementRanges
end NodeLint
