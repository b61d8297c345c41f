import NodeLint.Source.Derivation

/-!
# Derivations without the interpreter

What it means that a parsing expression matches a stretch of tokens and leaves certain trees, said
by rules alone: no fuel, no memory, and no order among alternatives. The interpreter, run without
hints, finds only what the rules allow. A property of all derivations is therefore a property of
every tree that a text is ever read as.

The converse is not claimed. The rules do not say which alternative goes first, so they allow more
than the interpreter finds.
-/

namespace NodeLint.Source

variable {ρ : Type}

/-- The expression matches the tokens from the first position up to the second and leaves these
trees. What is looked at ahead is not part of the stretch. A complaint has had nothing to say, with
`check` for the expressions of fields. -/
inductive Derives (g : Grammar ρ) (check : Field → Option Fault) (tokens : Array Token) :
    Peg ρ → Nat → Nat → List Tree → Prop where
  | terminal {t : Terminal} {k : Token} {i : Nat} (hread : tokens[i]? = some k)
      (haccepts : t.accepts k = true) : Derives g check tokens (.terminal t) i (i + 1) []
  | keep {t : Terminal} {k : Token} {i : Nat} (hread : tokens[i]? = some k)
      (haccepts : t.accepts k = true) : Derives g check tokens (.keep t) i (i + 1) [.leaf k]
  | forced {text : String} {k : Token} {i : Nat} (hread : tokens[i]? = some k)
      (haccepts : (Terminal.op text).accepts k = true) :
      Derives g check tokens (.forced text) i (i + 1) []
  | rule {r : ρ} {i j : Nat} {trees : List Tree}
      (hbody : Derives g check tokens (g.body r) i j trees) :
      Derives g check tokens (.rule r) i j trees
  | seqNil {i : Nat} : Derives g check tokens (.seq []) i i []
  | seqCons {p : Peg ρ} {ps : List (Peg ρ)} {i m j : Nat} {first rest : List Tree}
      (hfirst : Derives g check tokens p i m first)
      (hrest : Derives g check tokens (.seq ps) m j rest) :
      Derives g check tokens (.seq (p :: ps)) i j (first ++ rest)
  | alt {p : Peg ρ} {ps : List (Peg ρ)} {i j : Nat} {trees : List Tree} (hmem : p ∈ ps)
      (hp : Derives g check tokens p i j trees) : Derives g check tokens (.alt ps) i j trees
  | commit {head body otherwise : Peg ρ} {i m j : Nat} {first rest : List Tree}
      (hhead : Derives g check tokens head i m first)
      (hbody : Derives g check tokens body m j rest) :
      Derives g check tokens (.commit head body otherwise) i j (first ++ rest)
  | otherwise {head body otherwise : Peg ρ} {i j : Nat} {trees : List Tree}
      (hother : Derives g check tokens otherwise i j trees) :
      Derives g check tokens (.commit head body otherwise) i j trees
  | optionalNone {p : Peg ρ} {i : Nat} : Derives g check tokens (.optional p) i i []
  | optionalSome {p : Peg ρ} {i j : Nat} {trees : List Tree}
      (hp : Derives g check tokens p i j trees) : Derives g check tokens (.optional p) i j trees
  | manyNil {p : Peg ρ} {i : Nat} : Derives g check tokens (.many p) i i []
  | manyCons {p : Peg ρ} {i m j : Nat} {first rest : List Tree}
      (hfirst : Derives g check tokens p i m first)
      (hrest : Derives g check tokens (.many p) m j rest) :
      Derives g check tokens (.many p) i j (first ++ rest)
  | many1 {p : Peg ρ} {i m j : Nat} {first rest : List Tree}
      (hfirst : Derives g check tokens p i m first)
      (hrest : Derives g check tokens (.many p) m j rest) :
      Derives g check tokens (.many1 p) i j (first ++ rest)
  | sepBy {p sep : Peg ρ} {i m j : Nat} {first rest : List Tree}
      (hfirst : Derives g check tokens p i m first)
      (hrest : Derives g check tokens (.many (.seq [sep, p])) m j rest) :
      Derives g check tokens (.sepBy p sep) i j (first ++ rest)
  | ahead {p : Peg ρ} {i j : Nat} {trees : List Tree} (hp : Derives g check tokens p i j trees) :
      Derives g check tokens (.ahead p) i i []
  | notAhead {p : Peg ρ} {i : Nat} : Derives g check tokens (.notAhead p) i i []
  | node {kind : Kind} {p : Peg ρ} {i j : Nat} {trees : List Tree}
      (hp : Derives g check tokens p i j trees) :
      Derives g check tokens (.node kind p) i j [.node kind (spanBetween tokens i j) trees]
  | chainHead {head : Peg ρ} {steps : List (Kind × Peg ρ)} {i j : Nat} {trees : List Tree}
      (hhead : Derives g check tokens head i j trees) :
      Derives g check tokens (.chain head steps) i j trees
  | chainStep {head p : Peg ρ} {steps : List (Kind × Peg ρ)} {kind : Kind} {i m j : Nat}
      {first rest : List Tree} (hfirst : Derives g check tokens (.chain head steps) i m first)
      (hmem : (kind, p) ∈ steps) (hstep : Derives g check tokens p m j rest) :
      Derives g check tokens (.chain head steps) i j
        [.node kind (spanBetween tokens i j) (first ++ rest)]
  | checked {p : Peg ρ} {c : Complaint} {i j : Nat} {trees : List Tree}
      (hp : Derives g check tokens p i j trees)
      (hsilent : ∃ s : Scene, s.context.check = check ∧ c.fault? s trees = none) :
      Derives g check tokens (.checked p c) i j trees
  | plain {p : Peg ρ} {i j : Nat} {trees : List Tree} (hp : Derives g check tokens p i j trees) :
      Derives g check tokens (.plain p) i j trees

/-- A derivation never moves backwards. -/
theorem Derives.le {g : Grammar ρ} {check : Field → Option Fault} {tokens : Array Token} {p : Peg ρ}
    {i j : Nat} {trees : List Tree} (h : Derives g check tokens p i j trees) : i ≤ j := by
  induction h with
  | seqCons _ _ ih₁ ih₂ | commit _ _ ih₁ ih₂ | manyCons _ _ ih₁ ih₂ | many1 _ _ ih₁ ih₂
  | sepBy _ _ ih₁ ih₂ | chainStep _ _ _ ih₁ ih₂ => exact Nat.le_trans ih₁ ih₂
  | _ => omega

/-! ## The interpreter finds derivations -/

section
variable [DecidableEq ρ] {e : Setting ρ}

/-- Every match in the memory can be derived. -/
def Progress.Sound (e : Setting ρ) (s : Progress ρ) : Prop :=
  ∀ r i j trees, recallAt? s r i = some (some (j, trees)) →
    Derives e.grammar e.context.check e.stream.tokens (.rule r) i j trees

/-- An outcome is no match, or one that can be derived. -/
def Outcome.Justified (e : Setting ρ) (p : Peg ρ) (i : Nat) (o : Outcome) : Prop :=
  ∀ j trees, o = .matched j trees →
    Derives e.grammar e.context.check e.stream.tokens p i j trees

/-- From a sound memory a matcher finds only derivable matches of `p`, and leaves the memory
sound. -/
def FindsOnly (e : Setting ρ) (p : Peg ρ) (m : Matcher ρ) : Prop :=
  ∀ i s, s.Sound e → (m i s).2.Sound e ∧ (m i s).1.Justified e p i

/-- An empty memory is sound. -/
theorem Progress.sound_empty (e : Setting ρ) (reached size : Nat) :
    Progress.Sound e ⟨reached, Array.replicate size []⟩ := by
  intro r i j trees h
  simp [recallAt?, Array.getD] at h

/-- What is recalled behind a new entry is that entry or an older one. -/
theorem recallAt?_remember {s : Progress ρ} {r r' : ρ} {i i' : Nat}
    {result found : Option (Nat × List Tree)}
    (h : recallAt? (remember s r i result) r' i' = some found) :
    (r' = r ∧ i' = i ∧ found = result) ∨ recallAt? s r' i' = some found := by
  simp only [recallAt?, remember, Array.getD_eq_getD_getElem?, Array.getElem?_modify] at h ⊢
  by_cases hi : i = i'
  · subst hi
    cases hmem : s.memory[i]? with
    | none => simp [hmem] at h
    | some entries =>
      by_cases hr : r = r'
      · subst hr
        left
        simpa [hmem, eq_comm] using h
      · right
        simpa [hmem, hr] using h
  · right
    simpa [hi] using h

/-- Remembering a derivable match, or a failure, keeps the memory sound. -/
theorem Progress.Sound.remember {s : Progress ρ} (hs : s.Sound e) {r : ρ} {i : Nat}
    {result : Option (Nat × List Tree)}
    (hresult : ∀ j trees, result = some (j, trees) →
      Derives e.grammar e.context.check e.stream.tokens (.rule r) i j trees) :
    (remember s r i result).Sound e := by
  intro r' i' j trees h
  rcases recallAt?_remember h with ⟨rfl, rfl, hfound⟩ | hold
  · exact hresult j trees hfound.symm
  · exact hs r' i' j trees hold

/-- Reading a token decides by that token and leaves the memory as it is. -/
theorem withToken_findsOnly {p : Peg ρ} (decide : Nat → Token → Progress ρ → Outcome)
    (hdecide : ∀ i k s, e.stream.tokens[i]? = some k → (decide i k s).Justified e p i) :
    FindsOnly e p fun i => withToken e (decide i) i := by
  intro i s hs
  simp only [withToken]
  cases hread : e.stream.tokens[i]? with
  | some k => exact ⟨hs, hdecide i k _ hread⟩
  | none => cases e.stream.stop <;> exact ⟨hs, nofun⟩

/-- Matching a terminal finds one accepted token. -/
theorem matchTerminal_findsOnly {t : Terminal} {keep : Bool} {p : Peg ρ}
    (hp : ∀ i k, e.stream.tokens[i]? = some k → t.accepts k = true →
      Derives e.grammar e.context.check e.stream.tokens p i (i + 1)
        (if keep then [.leaf k] else [])) :
    FindsOnly e p (matchTerminal e t keep) := by
  apply withToken_findsOnly
  intro i k s hread j trees h
  split at h
  · rename_i haccepts
    cases h
    exact hp i k hread haccepts
  · cases h

/-- A token that has to come is taken if it does. -/
theorem matchForced_findsOnly (text : String) :
    FindsOnly e (.forced text) (matchForced e text) := by
  apply withToken_findsOnly
  intro i k s hread j trees h
  split at h
  · rename_i haccepts
    cases h
    exact .forced hread haccepts
  · cases h

variable {run : Peg ρ → Matcher ρ}

/-- Matching one after the other adds the trees of a derivable sequence. -/
theorem matchSeq_sound (hrun : ∀ p, FindsOnly e p (run p)) (ps : List (Peg ρ))
    (trees : List Tree) (i : Nat) (s : Progress ρ) (hs : s.Sound e) :
    (matchSeq run ps trees i s).2.Sound e ∧
      ∀ j out, (matchSeq run ps trees i s).1 = .matched j out →
        ∃ new, out = trees ++ new ∧
          Derives e.grammar e.context.check e.stream.tokens (.seq ps) i j new := by
  induction ps generalizing trees i s with
  | nil =>
    refine ⟨hs, fun j out h => ?_⟩
    cases h
    exact ⟨[], (List.append_nil trees).symm, .seqNil⟩
  | cons p ps ih =>
    obtain ⟨hs', hfirst⟩ := hrun p i s hs
    simp only [matchSeq]
    generalize run p i s = first at hs' hfirst
    obtain ⟨o, s'⟩ := first
    cases o with
    | matched m new =>
      obtain ⟨hs'', hrest⟩ := ih (trees ++ new) m s' hs'
      refine ⟨hs'', fun j out h => ?_⟩
      obtain ⟨more, rfl, hmore⟩ := hrest j out h
      exact ⟨new ++ more, List.append_assoc _ _ _, .seqCons (hfirst m new rfl) hmore⟩
    | failed | abandoned | refused | unreadable => exact ⟨hs', nofun⟩

/-- A choice finds what one of its alternatives finds. -/
theorem matchAlt_sound (hrun : ∀ p, FindsOnly e p (run p)) (ps : List (Peg ρ)) (i : Nat)
    (s : Progress ρ) (hs : s.Sound e) :
    (matchAlt run ps i s).2.Sound e ∧
      ∀ j trees, (matchAlt run ps i s).1 = .matched j trees →
        ∃ p ∈ ps, Derives e.grammar e.context.check e.stream.tokens p i j trees := by
  induction ps generalizing s with
  | nil => exact ⟨hs, nofun⟩
  | cons p ps ih =>
    obtain ⟨hs', hfirst⟩ := hrun p i s hs
    simp only [matchAlt]
    generalize run p i s = first at hs' hfirst
    obtain ⟨o, s'⟩ := first
    cases o with
    | matched m new =>
      refine ⟨hs', fun j trees h => ?_⟩
      exact ⟨p, List.mem_cons_self, hfirst j trees h⟩
    | failed =>
      obtain ⟨hs'', hrest⟩ := ih s' hs'
      refine ⟨hs'', fun j trees h => ?_⟩
      obtain ⟨q, hq, hderives⟩ := hrest j trees h
      exact ⟨q, List.mem_cons_of_mem p hq, hderives⟩
    | abandoned | refused | unreadable => exact ⟨hs', nofun⟩

/-- A repetition adds the trees of derivable repetitions. -/
theorem matchMany_sound {p : Peg ρ} {step : Matcher ρ} (hstep : FindsOnly e p step) (count : Nat)
    (trees : List Tree) (i : Nat) (s : Progress ρ) (hs : s.Sound e) :
    (matchMany step count trees i s).2.Sound e ∧
      ∀ j out, (matchMany step count trees i s).1 = .matched j out →
        ∃ new, out = trees.reverse ++ new ∧
          Derives e.grammar e.context.check e.stream.tokens (.many p) i j new := by
  -- every way to stop leaves the trees so far
  have hstop (trees : List Tree) (i j : Nat) (out : List Tree)
      (h : Outcome.matched i trees.reverse = .matched j out) :
      ∃ new, out = trees.reverse ++ new ∧
        Derives e.grammar e.context.check e.stream.tokens (.many p) i j new := by
    cases h
    exact ⟨[], (List.append_nil _).symm, .manyNil⟩
  induction count generalizing trees i s with
  | zero => exact ⟨hs, hstop trees i⟩
  | succ count ih =>
    obtain ⟨hs', hfirst⟩ := hstep i s hs
    simp only [matchMany]
    generalize step i s = first at hs' hfirst
    obtain ⟨o, s'⟩ := first
    cases o with
    | matched m new =>
      by_cases hprogress : i < m
      · simp only [hprogress, if_true]
        obtain ⟨hs'', hrest⟩ := ih (new.reverse ++ trees) m s' hs'
        refine ⟨hs'', fun j out h => ?_⟩
        obtain ⟨more, rfl, hmore⟩ := hrest j out h
        exact ⟨new ++ more, by simp, .manyCons (hfirst m new rfl) hmore⟩
      · simp only [hprogress, if_false]
        exact ⟨hs', hstop trees i⟩
    | failed | abandoned => exact ⟨hs', hstop trees i⟩
    | refused | unreadable => exact ⟨hs', nofun⟩

/-- One step of a chain wraps the trees so far. -/
theorem matchStep_sound (hrun : ∀ p, FindsOnly e p (run p)) (first : Nat) (trees : List Tree)
    (steps : List (Kind × Peg ρ)) (i : Nat) (s : Progress ρ) (hs : s.Sound e) :
    (matchStep e run first trees steps i s).2.Sound e ∧
      ∀ j out, (matchStep e run first trees steps i s).1 = .matched j out →
        ∃ kind p new, (kind, p) ∈ steps ∧
          Derives e.grammar e.context.check e.stream.tokens p i j new ∧
          out = [.node kind (spanBetween e.stream.tokens first j) (trees ++ new)] := by
  induction steps generalizing s with
  | nil => exact ⟨hs, nofun⟩
  | cons step steps ih =>
    obtain ⟨kind, p⟩ := step
    obtain ⟨hs', hfirst⟩ := hrun p i s hs
    simp only [matchStep]
    generalize run p i s = result at hs' hfirst
    obtain ⟨o, s'⟩ := result
    cases o with
    | matched m new =>
      refine ⟨hs', fun j out h => ?_⟩
      cases h
      exact ⟨kind, p, new, List.mem_cons_self, hfirst m new rfl, rfl⟩
    | failed =>
      obtain ⟨hs'', hrest⟩ := ih s' hs'
      refine ⟨hs'', fun j out h => ?_⟩
      obtain ⟨kind', q, new, hq, hderives, hout⟩ := hrest j out h
      exact ⟨kind', q, new, List.mem_cons_of_mem _ hq, hderives, hout⟩
    | abandoned | refused | unreadable => exact ⟨hs', nofun⟩

/-- Steps prolong a derivable chain. -/
theorem matchSteps_sound (hrun : ∀ p, FindsOnly e p (run p)) {head : Peg ρ}
    {steps : List (Kind × Peg ρ)} {first : Nat} (count : Nat) (trees : List Tree) (i : Nat)
    (s : Progress ρ) (hs : s.Sound e)
    (hchain : Derives e.grammar e.context.check e.stream.tokens (.chain head steps) first i trees) :
    (matchSteps e run steps first count trees i s).2.Sound e ∧
      (matchSteps e run steps first count trees i s).1.Justified e (.chain head steps) first := by
  have hstop (trees : List Tree) (i : Nat)
      (hchain : Derives e.grammar e.context.check e.stream.tokens (.chain head steps) first i
        trees) :
      (Outcome.matched i trees).Justified e (.chain head steps) first := by
    intro j out h
    cases h
    exact hchain
  induction count generalizing trees i s with
  | zero => exact ⟨hs, hstop trees i hchain⟩
  | succ count ih =>
    obtain ⟨hs', hstep⟩ := matchStep_sound hrun first trees steps i s hs
    simp only [matchSteps]
    generalize matchStep e run first trees steps i s = result at hs' hstep
    obtain ⟨o, s'⟩ := result
    cases o with
    | matched m new =>
      obtain ⟨kind, p, more, hmem, hderives, rfl⟩ := hstep m new rfl
      exact ih _ m s' hs' (.chainStep hchain hmem hderives)
    | failed | abandoned => exact ⟨hs', hstop trees i hchain⟩
    | refused | unreadable => exact ⟨hs', nofun⟩

/-- A rule finds what its body finds, now or when it was first asked. -/
theorem matchRule_findsOnly (hrun : ∀ p, FindsOnly e p (run p)) (r : ρ) :
    FindsOnly e (.rule r) (matchRule e run r) := by
  intro i s hs
  obtain ⟨hs', hbody⟩ := hrun (e.grammar.body r) i s hs
  simp only [matchRule]
  generalize run (e.grammar.body r) i s = result at hs' hbody
  obtain ⟨o, s'⟩ := result
  split
  · cases hrecall : recallAt? s r i with
    | some found =>
      cases found with
      | some found =>
        refine ⟨hs, fun j trees h => ?_⟩
        cases h
        exact hs r i _ _ hrecall
      | none => exact ⟨hs, nofun⟩
    | none =>
      cases o with
      | matched m trees =>
        have hrule := Derives.rule (hbody m trees rfl)
        refine ⟨hs'.remember fun j out h => ?_, fun j out h => ?_⟩
        · cases h
          exact hrule
        · cases h
          exact hrule
      | failed | abandoned => exact ⟨hs'.remember nofun, nofun⟩
      | refused | unreadable => exact ⟨hs', nofun⟩
  · cases o with
    | matched m trees =>
      refine ⟨hs', fun j out h => ?_⟩
      cases h
      exact .rule (hbody m trees rfl)
    | failed | abandoned | refused | unreadable => exact ⟨hs', nofun⟩

/-! One lemma for each operator that looks at the outcome of a part; `ih` speaks of derivations
that are less deep. -/

section
attribute [local simp] derive

variable {fuel : Nat} (ih : ∀ p, FindsOnly e p (derive e fuel false p))
include ih

/-- A head that matches commits to its body; one that fails leaves the other alternative. -/
theorem derive_commit_findsOnly (head body otherwise : Peg ρ) :
    FindsOnly e (.commit head body otherwise)
      (derive e (fuel + 1) false (.commit head body otherwise)) := by
  intro i s hs
  obtain ⟨hs', hhead⟩ := ih head i s hs
  simp only [derive]
  generalize derive e fuel false head i s = result at hs' hhead
  obtain ⟨o, s'⟩ := result
  cases o with
  | matched m first =>
    obtain ⟨hs'', hbody⟩ := matchSeq_sound ih [body] first m s' hs'
    refine ⟨hs'', fun j trees h => ?_⟩
    obtain ⟨new, rfl, hnew⟩ := hbody j trees h
    cases hnew with
    | seqCons hbody hnil =>
      cases hnil
      rw [List.append_nil]
      exact .commit (hhead m first rfl) hbody
  | failed =>
    obtain ⟨hs'', hother⟩ := ih otherwise i s' hs'
    exact ⟨hs'', fun j trees h => .otherwise (hother j trees h)⟩
  | abandoned | refused | unreadable => exact ⟨hs', nofun⟩

/-- An optional part matches itself or nothing. -/
theorem derive_optional_findsOnly (p : Peg ρ) :
    FindsOnly e (.optional p) (derive e (fuel + 1) false (.optional p)) := by
  intro i s hs
  obtain ⟨hs', hp⟩ := ih p i s hs
  simp only [derive]
  generalize derive e fuel false p i s = result at hs' hp
  obtain ⟨o, s'⟩ := result
  cases o with
  | matched m trees => exact ⟨hs', fun j out h => .optionalSome (hp j out h)⟩
  | failed | abandoned =>
    refine ⟨hs', fun j out h => ?_⟩
    cases h
    exact .optionalNone
  | refused | unreadable => exact ⟨hs', nofun⟩

/-- One or more is one, and then any number. -/
theorem derive_many1_findsOnly (p : Peg ρ) :
    FindsOnly e (.many1 p) (derive e (fuel + 1) false (.many1 p)) := by
  intro i s hs
  obtain ⟨hs', hp⟩ := ih p i s hs
  simp only [derive]
  generalize derive e fuel false p i s = result at hs' hp
  obtain ⟨o, s'⟩ := result
  cases o with
  | matched m first =>
    obtain ⟨hs'', hmany⟩ :=
      matchMany_sound (ih p) (e.stream.tokens.size + 1) first.reverse m s' hs'
    refine ⟨hs'', fun j trees h => ?_⟩
    obtain ⟨new, rfl, hnew⟩ := hmany j trees h
    rw [List.reverse_reverse]
    exact .many1 (hp m first rfl) hnew
  | failed | abandoned | refused | unreadable => exact ⟨hs', nofun⟩

/-- Behind the first item, each separator comes with one more. -/
theorem derive_sepBy_findsOnly (p sep : Peg ρ) :
    FindsOnly e (.sepBy p sep) (derive e (fuel + 1) false (.sepBy p sep)) := by
  have hpair : FindsOnly e (.seq [sep, p]) (matchSeq (derive e fuel false) [sep, p] []) := by
    intro i s hs
    obtain ⟨hs', hseq⟩ := matchSeq_sound ih [sep, p] [] i s hs
    refine ⟨hs', fun j trees h => ?_⟩
    obtain ⟨new, rfl, hnew⟩ := hseq j trees h
    exact hnew
  intro i s hs
  obtain ⟨hs', hp⟩ := ih p i s hs
  simp only [derive]
  generalize derive e fuel false p i s = result at hs' hp
  obtain ⟨o, s'⟩ := result
  cases o with
  | matched m first =>
    obtain ⟨hs'', hmany⟩ :=
      matchMany_sound hpair (e.stream.tokens.size + 1) first.reverse m s' hs'
    refine ⟨hs'', fun j trees h => ?_⟩
    obtain ⟨new, rfl, hnew⟩ := hmany j trees h
    rw [List.reverse_reverse]
    exact .sepBy (hp m first rfl) hnew
  | failed | abandoned | refused | unreadable => exact ⟨hs', nofun⟩

/-- Looking ahead takes nothing. -/
theorem derive_ahead_findsOnly (p : Peg ρ) :
    FindsOnly e (.ahead p) (derive e (fuel + 1) false (.ahead p)) := by
  intro i s hs
  obtain ⟨hs', hp⟩ := ih p i s hs
  simp only [derive]
  generalize derive e fuel false p i s = result at hs' hp
  obtain ⟨o, s'⟩ := result
  cases o with
  | matched m trees =>
    refine ⟨hs', fun j out h => ?_⟩
    cases h
    exact .ahead (hp m trees rfl)
  | failed | abandoned | refused | unreadable => exact ⟨hs', nofun⟩

/-- Nor does looking for what must not come. -/
theorem derive_notAhead_findsOnly (p : Peg ρ) :
    FindsOnly e (.notAhead p) (derive e (fuel + 1) false (.notAhead p)) := by
  intro i s hs
  obtain ⟨hs', -⟩ := ih p i s hs
  simp only [derive]
  generalize derive e fuel false p i s = result at hs'
  obtain ⟨o, s'⟩ := result
  cases o with
  | failed | abandoned =>
    refine ⟨hs', fun j out h => ?_⟩
    cases h
    exact .notAhead
  | matched | refused | unreadable => exact ⟨hs', nofun⟩

/-- A labelled part leaves one tree. -/
theorem derive_node_findsOnly (kind : Kind) (p : Peg ρ) :
    FindsOnly e (.node kind p) (derive e (fuel + 1) false (.node kind p)) := by
  intro i s hs
  obtain ⟨hs', hp⟩ := ih p i s hs
  simp only [derive]
  generalize derive e fuel false p i s = result at hs' hp
  obtain ⟨o, s'⟩ := result
  cases o with
  | matched m trees =>
    refine ⟨hs', fun j out h => ?_⟩
    cases h
    exact .node (hp m trees rfl)
  | failed | abandoned | refused | unreadable => exact ⟨hs', nofun⟩

/-- A chain starts with its head. -/
theorem derive_chain_findsOnly (head : Peg ρ) (steps : List (Kind × Peg ρ)) :
    FindsOnly e (.chain head steps) (derive e (fuel + 1) false (.chain head steps)) := by
  intro i s hs
  obtain ⟨hs', hhead⟩ := ih head i s hs
  simp only [derive]
  generalize derive e fuel false head i s = result at hs' hhead
  obtain ⟨o, s'⟩ := result
  cases o with
  | matched m trees =>
    exact matchSteps_sound ih (e.stream.tokens.size + 1) trees m s' hs'
      (.chainHead (hhead m trees rfl))
  | failed | abandoned | refused | unreadable => exact ⟨hs', nofun⟩

/-- What is refused is no match. -/
theorem derive_refuse_findsOnly (p : Peg ρ) (c : Complaint) :
    FindsOnly e (.refuse p c) (derive e (fuel + 1) false (.refuse p c)) := by
  intro i s hs
  obtain ⟨hs', -⟩ := ih p i s hs
  simp only [derive]
  generalize derive e fuel false p i s = result at hs'
  obtain ⟨o, s'⟩ := result
  cases o with
  | matched m trees =>
    dsimp only
    cases c.fault? (e.scene s' m) trees <;> exact ⟨hs', nofun⟩
  | failed | abandoned | refused | unreadable => exact ⟨hs', nofun⟩

/-- A complaint with nothing to say lets the match stand. -/
theorem derive_checked_findsOnly (p : Peg ρ) (c : Complaint) :
    FindsOnly e (.checked p c) (derive e (fuel + 1) false (.checked p c)) := by
  intro i s hs
  obtain ⟨hs', hp⟩ := ih p i s hs
  simp only [derive]
  generalize derive e fuel false p i s = result at hs' hp
  obtain ⟨o, s'⟩ := result
  cases o with
  | matched m trees =>
    dsimp only
    cases hsilent : c.fault? (e.scene s' m) trees with
    | some fault => exact ⟨hs', nofun⟩
    | none =>
      refine ⟨hs', fun j out h => ?_⟩
      cases h
      exact .checked (hp m trees rfl) ⟨e.scene s' m, rfl, hsilent⟩
  | failed | abandoned | refused | unreadable => exact ⟨hs', nofun⟩

end

/-- Without hints the interpreter finds only what can be derived. -/
theorem derive_findsOnly (fuel : Nat) (p : Peg ρ) : FindsOnly e p (derive e fuel false p) := by
  induction fuel generalizing p with
  | zero => exact fun i s hs => ⟨hs, nofun⟩
  | succ fuel ih =>
    cases p with
    | terminal t =>
      exact matchTerminal_findsOnly fun _ _ hread haccepts => .terminal hread haccepts
    | keep t => exact matchTerminal_findsOnly fun _ _ hread haccepts => .keep hread haccepts
    | forced text => exact matchForced_findsOnly text
    | rule r => exact matchRule_findsOnly ih r
    | seq ps =>
      intro i s hs
      obtain ⟨hs', hseq⟩ := matchSeq_sound ih ps [] i s hs
      refine ⟨hs', fun j trees h => ?_⟩
      obtain ⟨new, rfl, hnew⟩ := hseq j trees h
      exact hnew
    | alt ps =>
      intro i s hs
      obtain ⟨hs', halt⟩ := matchAlt_sound ih ps i s hs
      refine ⟨hs', fun j trees h => ?_⟩
      obtain ⟨q, hq, hderives⟩ := halt j trees h
      exact .alt hq hderives
    | many p =>
      intro i s hs
      obtain ⟨hs', hmany⟩ := matchMany_sound (ih p) (e.stream.tokens.size + 1) [] i s hs
      refine ⟨hs', fun j trees h => ?_⟩
      obtain ⟨new, rfl, hnew⟩ := hmany j trees h
      exact hnew
    | hint p => exact fun i s hs => ⟨hs, nofun⟩
    | plain p =>
      intro i s hs
      obtain ⟨hs', hp⟩ := ih p i s hs
      exact ⟨hs', fun j trees h => .plain (hp j trees h)⟩
    | commit head body otherwise => exact derive_commit_findsOnly ih head body otherwise
    | optional p => exact derive_optional_findsOnly ih p
    | many1 p => exact derive_many1_findsOnly ih p
    | sepBy p sep => exact derive_sepBy_findsOnly ih p sep
    | ahead p => exact derive_ahead_findsOnly ih p
    | notAhead p => exact derive_notAhead_findsOnly ih p
    | node kind p => exact derive_node_findsOnly ih kind p
    | chain head steps => exact derive_chain_findsOnly ih head steps
    | refuse p c => exact derive_refuse_findsOnly ih p c
    | checked p c => exact derive_checked_findsOnly ih p c

/-- A run without hints ends in a derivation of the start rule, if it ends in a match. -/
theorem Setting.run_justified (e : Setting ρ) (reached : Nat) :
    (e.run false reached).1.Justified e (.rule e.grammar.start) 0 :=
  (derive_findsOnly _ _ 0 _ (Progress.sound_empty e reached _)).2

/-- The trees that a derivation ends with are derived from the start rule. -/
theorem Setting.parse_derives {trees : List Tree} (h : e.parse = .ok trees) :
    ∃ j, Derives e.grammar e.context.check e.stream.tokens (.rule e.grammar.start) 0 j trees := by
  have hrun := e.run_justified 0
  simp only [Setting.parse] at h
  generalize e.run false 0 = result at hrun h
  obtain ⟨o, s⟩ := result
  cases o with
  | matched j found =>
    cases h
    exact ⟨j, hrun j _ rfl⟩
  | unreadable | refused => cases h
  | failed | abandoned =>
    dsimp only at h
    split at h <;> cases h

/-- The expression of a field that nothing is wrong with is derived from the rule for fields. -/
theorem Grammar.field_derives {g : Grammar ρ} {nesting : Nat} {f : Field}
    (h : g.fieldFault? (nesting + 1) f = none) :
    ∃ j trees, Derives { g with start := g.field } (g.fieldFault? nesting) f.tokens.tokens
      (.rule g.field) 0 j trees := by
  simp only [Grammar.fieldFault?] at h
  split at h
  · rename_i trees hparse
    obtain ⟨j, hderives⟩ := Setting.parse_derives hparse
    exact ⟨j, trees, hderives⟩
  · cases h

/-- The trees of a text are derived from the start rule. -/
theorem Grammar.parse_derives {g : Grammar ρ} {text : SourceText} {trees : List Tree}
    (h : g.parse text = .ok trees) :
    ∃ j, Derives g (g.fieldCheck text) text.tokens.tokens (.rule g.start) 0 j trees :=
  Setting.parse_derives h

end

end NodeLint.Source
