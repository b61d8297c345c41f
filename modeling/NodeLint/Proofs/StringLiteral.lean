import Mathlib.Data.Option.Basic
import NodeLint.Proofs.ClassKeyword
import NodeLint.Proofs.Escape
import NodeLint.Proofs.FormattedString
import NodeLint.Proofs.Run

/-!
# The string literals of a program

Nothing is wrong with any string literal of a program: no escape in it, and no field of a formatted
one. The grammar takes string literals in one place only, and there it has them checked. That no
phrase takes one elsewhere is computed rule by rule. A file with any other string literal in it is
therefore reported as a syntax error, and nothing else is reported about it.
-/

namespace NodeLint

open Source

namespace Source

/-- A string literal with nothing wrong in it; `check` looks at the expressions of fields. -/
structure Token.InOrder (check : Field → Option Fault) (k : Token) : Prop where
  plain : plainFault? k = none
  formatted : formattedFault? check k = none

/-- Whether a string literal is one of bytes. -/
def Token.isBytes (k : Token) : Bool := hasPrefix 'b' k.text.toList

/-- The string literals among tokens are in order. -/
def AllInOrder (check : Field → Option Fault) (ks : List Token) : Prop :=
  ∀ k ∈ ks, k.kind = .string → k.InOrder check

variable {check : Field → Option Fault}

/-- Nothing is wrong with a literal that is not formatted if bytes hold ASCII only and, unless it is
raw, its escapes are right. -/
theorem plainFault?_eq_none_iff {k : Token} (hplain : hasPrefix 'f' k.text.toList = false) :
    let text := k.text.toList
    let content := (literalParts text).2
    plainFault? k = none ↔
      (k.isBytes = true → ∀ c ∈ content, c.toNat < 128) ∧
      (hasPrefix 'r' text = false →
        if k.isBytes then Escaped IsByteEscape content else Escaped IsCharacterEscape content) := by
  intro text content
  have hascii : (content.any fun c => c.toNat ≥ 128) = false ↔ ∀ c ∈ content, c.toNat < 128 := by
    simp
  have hfault : plainFault? k =
      if k.isBytes && content.any (fun c => c.toNat ≥ 128) then
        some "bytes can only contain ASCII literal characters"
      else if hasPrefix 'r' text then none
      else if k.isBytes then badByteEscape? content else badEscape? content := by
    rw [plainFault?, hplain]
    rfl
  rw [hfault, ← hascii]
  cases k.isBytes <;> cases hasPrefix 'r' text <;>
    cases content.any (fun c => c.toNat ≥ 128) <;>
    simp [badEscape?_eq_none_iff, badByteEscape?_eq_none_iff]

/-- Nothing is wrong with literals side by side exactly if each of them is in order and all are of
one kind, bytes or text; `bytes` is the kind of those before. -/
theorem badStrings?_eq_none_iff {bytes : Option Bool} {ks : List Token} :
    badStrings? check bytes ks = none ↔ (∀ k ∈ ks, k.InOrder check) ∧
      (∀ k ∈ ks, ∀ b ∈ bytes, k.isBytes = b) ∧ ks.Pairwise fun k k' => k.isBytes = k'.isBytes := by
  induction ks generalizing bytes with
  | nil => simp [badStrings?]
  | cons k ks ih =>
    have hkind : (if bytes.any (· ≠ k.isBytes) then
        some (StringFault.words "cannot mix bytes and nonbytes literals") else none) = none ↔
        ∀ b ∈ bytes, k.isBytes = b := by
      cases bytes with
      | none => simp
      | some b => simpa using eq_comm
    have hfaults : badStrings? check bytes (k :: ks) = none ↔ plainFault? k = none ∧
        (∀ b ∈ bytes, k.isBytes = b) ∧ formattedFault? check k = none ∧
        badStrings? check (some k.isBytes) ks = none := by
      rw [← hkind]
      simp only [badStrings?, Option.orElse_eq_none, Option.map_eq_none_iff]
      rfl
    have horder : k.InOrder check ↔ plainFault? k = none ∧ formattedFault? check k = none :=
      ⟨fun h => ⟨h.plain, h.formatted⟩, fun h => ⟨h.1, h.2⟩⟩
    rw [hfaults, ih, List.forall_mem_cons, List.forall_mem_cons, List.pairwise_cons, horder]
    simp only [Option.mem_def, Option.some.injEq, forall_eq']
    constructor
    · rintro ⟨hplain, hbefore, hformatted, horders, hkinds, hpairs⟩
      exact ⟨⟨⟨hplain, hformatted⟩, horders⟩,
        ⟨hbefore, fun x hx b hb => (hkinds x hx).trans (hbefore b hb)⟩,
        fun x hx => (hkinds x hx).symm, hpairs⟩
    · rintro ⟨⟨⟨hplain, hformatted⟩, horders⟩, ⟨hbefore, -⟩, hkinds, hpairs⟩
      exact ⟨hplain, hbefore, hformatted, horders, fun x hx => (hkinds x hx).symm, hpairs⟩

/-- A field that is read in a program holds an expression that can be derived from the grammar. -/
theorem readField_derives {source : SourceText} {line column : Nat} {format : StringScan}
    {c c' : Cursor} (h : readField (language.fieldCheck source) line column format c = .ok c') :
    ∃ text j trees, text <+: c.rest.drop 1 ∧ text.all isFieldBlank = false ∧
      Derives { language with start := language.field } (language.fieldFault? source.chars.length)
        (fieldAt line column c.seen text).tokens.tokens (.rule .starExpressions) 0 j trees := by
  obtain ⟨text, hprefix, hblank, hcheck⟩ := readField_checks h
  obtain ⟨j, trees, hderives⟩ := Grammar.field_derives hcheck
  exact ⟨text, j, trees, hprefix, hblank, hderives⟩

/-! ## Where the grammar takes string literals -/

namespace Phrase

/-- Whether a phrase is a row of string literals. -/
def isStrings : Phrase → Bool
  | .many1 (.keep .string) => true
  | _ => false

/-- There is one such phrase. -/
theorem eq_of_isStrings {p : Phrase} (h : isStrings p = true) : p = .many1 (.keep .string) := by
  unfold isStrings at h
  split at h
  · rfl
  · cases h

mutual

/-- Whether a phrase takes string literals only where they are checked. -/
def checksStrings : Phrase → Bool
  | .terminal t | .keep t => t ≠ .string
  | .rule _ => true
  | .seq ps | .alt ps => allCheckStrings ps
  | .commit head body otherwise =>
    checksStrings head && checksStrings body && checksStrings otherwise
  | .optional p | .many p | .many1 p | .node _ p | .plain p => checksStrings p
  | .checked p c => isStrings p && c = .badStrings || checksStrings p
  | .sepBy p sep => checksStrings p && checksStrings sep
  | .chain head steps => checksStrings head && stepsCheckStrings steps
  | .ahead _ | .notAhead _ | .forced _ | .refuse _ _ | .hint _ => true

/-- The same for several phrases. -/
def allCheckStrings : List Phrase → Bool
  | [] => true
  | p :: ps => checksStrings p && allCheckStrings ps

/-- The same for the steps of a chain. -/
def stepsCheckStrings : List (Kind × Phrase) → Bool
  | [] => true
  | (_, p) :: steps => checksStrings p && stepsCheckStrings steps

end

/-- All rules check the string literals they take. -/
theorem checksStrings_body (r : Rule) : checksStrings r.body = true := by
  cases r <;> decide +kernel

/-- Every one of several phrases that check their string literals checks them. -/
theorem checksStrings_of_mem {p : Phrase} {ps : List Phrase} (h : allCheckStrings ps = true)
    (hp : p ∈ ps) : checksStrings p = true :=
  of_mem_all (fun _ _ => rfl) h hp

/-- So does every step of a chain. -/
theorem checksStrings_of_mem_steps {kind : Kind} {p : Phrase} {steps : List (Kind × Phrase)}
    (h : stepsCheckStrings steps = true) (hp : (kind, p) ∈ steps) : checksStrings p = true :=
  of_mem_all (f := fun step => checksStrings step.2) (fun _ _ => rfl) h hp

end Phrase

/-! ## Derivations -/

section
variable {tokens : Array Token} {i m j : Nat} {k : Token} {trees : List Tree}

/-- An empty stretch is in order. -/
theorem AllInOrder.empty : AllInOrder check (stretch tokens i i) := by
  intro k hk
  rw [stretch_self] at hk
  cases hk

/-- Two adjacent stretches in order make one. -/
theorem AllInOrder.append (him : i ≤ m) (hmj : m ≤ j)
    (hfirst : AllInOrder check (stretch tokens i m))
    (hrest : AllInOrder check (stretch tokens m j)) : AllInOrder check (stretch tokens i j) := by
  intro k hk
  rw [stretch_append him hmj, List.mem_append] at hk
  exact hk.elim (hfirst k) (hrest k)

/-- A terminal that is no string literal takes none. -/
theorem AllInOrder.one {t : Terminal} (hread : tokens[i]? = some k) (haccepts : t.accepts k = true)
    (ht : t ≠ .string) : AllInOrder check (stretch tokens i (i + 1)) := by
  intro k' hk' hstring
  rw [stretch_one hread, List.mem_singleton] at hk'
  subst hk'
  cases t <;> simp_all [Terminal.accepts]

/-- A repeated token leaves the tokens it takes. -/
theorem Derives.leafTokens_many {t : Terminal}
    (h : Derives language check tokens (.many (.keep t)) i j trees) :
    leafTokens trees = stretch tokens i j := by
  generalize hp : Peg.many (.keep t) = p at h
  induction h with
  | manyNil => exact stretch_self.symm
  | manyCons hfirst hrest _ ih =>
    cases hp
    cases hfirst with
    | keep hread _ =>
      rw [stretch_append (Nat.le_succ _) hrest.le, stretch_one hread, ← ih rfl]
      rfl
  | _ => cases hp

/-- A row of tokens leaves the tokens it takes. -/
theorem Derives.leafTokens_many1 {t : Terminal}
    (h : Derives language check tokens (.many1 (.keep t)) i j trees) :
    leafTokens trees = stretch tokens i j := by
  cases h with
  | many1 hfirst hrest => exact (Derives.manyCons hfirst hrest).leafTokens_many

/-- A phrase that checks its string literals takes those that are in order. -/
theorem Derives.allInOrder {p : Phrase} (h : Derives language check tokens p i j trees)
    (hp : Phrase.checksStrings p = true) : AllInOrder check (stretch tokens i j) := by
  induction h with
  | terminal hread haccepts | keep hread haccepts =>
    exact .one hread haccepts (of_decide_eq_true hp)
  | forced hread haccepts => exact .one hread haccepts nofun
  | rule _ ih => exact ih (Phrase.checksStrings_body _)
  | alt hmem _ ih => exact ih (Phrase.checksStrings_of_mem hp hmem)
  | seqNil | optionalNone | manyNil | ahead | notAhead => exact .empty
  | optionalSome _ ih | node _ ih | plain _ ih => exact ih hp
  | seqCons hfirst hrest ih₁ ih₂ =>
    simp only [Phrase.checksStrings, Phrase.allCheckStrings, Bool.and_eq_true] at hp
    exact .append hfirst.le hrest.le (ih₁ hp.1) (ih₂ hp.2)
  | commit hhead hbody ih₁ ih₂ =>
    simp only [Phrase.checksStrings, Bool.and_eq_true] at hp
    exact .append hhead.le hbody.le (ih₁ hp.1.1) (ih₂ hp.1.2)
  | otherwise _ ih =>
    simp only [Phrase.checksStrings, Bool.and_eq_true] at hp
    exact ih hp.2
  | manyCons hfirst hrest ih₁ ih₂ | many1 hfirst hrest ih₁ ih₂ =>
    exact .append hfirst.le hrest.le (ih₁ hp) (ih₂ hp)
  | sepBy hfirst hrest ih₁ ih₂ =>
    simp only [Phrase.checksStrings, Bool.and_eq_true] at hp
    exact .append hfirst.le hrest.le (ih₁ hp.1)
      (ih₂ (by simp [Phrase.checksStrings, Phrase.allCheckStrings, hp.1, hp.2]))
  | chainHead _ ih =>
    simp only [Phrase.checksStrings, Bool.and_eq_true] at hp
    exact ih hp.1
  | chainStep hfirst hmem hstep ih₁ ih₂ =>
    have hsteps := hp
    simp only [Phrase.checksStrings, Bool.and_eq_true] at hsteps
    exact .append hfirst.le hstep.le (ih₁ hp)
      (ih₂ (Phrase.checksStrings_of_mem_steps hsteps.2 hmem))
  | checked hp' hsilent ih =>
    simp only [Phrase.checksStrings, Bool.or_eq_true, Bool.and_eq_true, decide_eq_true_eq] at hp
    rcases hp with ⟨hstrings, rfl⟩ | hp
    · obtain rfl := Phrase.eq_of_isStrings hstrings
      obtain ⟨s, rfl, hsilent⟩ := hsilent
      rw [Complaint.fault?, Option.map_eq_none_iff, hp'.leafTokens_many1] at hsilent
      exact fun k hk _ => (badStrings?_eq_none_iff.mp hsilent).1 k hk
    · exact ih hp

end

/-! ## Programs -/

/-- The string literals of a program are in order. -/
theorem parse_strings {source : List Char} {stmts : List Stmt} (h : parse source = .ok stmts)
    {k : Token} (hk : k ∈ (SourceText.ofSource source).tokens.tokens) (hstring : k.kind = .string) :
    k.InOrder (language.fieldCheck (SourceText.ofSource source)) := by
  obtain ⟨j, trees, hderives, -⟩ := exists_derives_of_parse h
  have hj := hderives.file_end
  subst hj
  refine hderives.allInOrder rfl k ?_ hstring
  simpa [stretch, ← Array.length_toList] using hk

end Source

/-- A text with a string literal that is not in order gives one error, under all settings. -/
theorem Settings.lintBytes_of_string (s : Settings) (path : Path) {text : List Char} {k : Token}
    (hk : k ∈ (SourceText.ofSource (Text.unifyNewlines text)).tokens.tokens)
    (hstring : k.kind = .string)
    (hwrong : ¬ k.InOrder (language.fieldCheck (SourceText.ofSource (Text.unifyNewlines text)))) :
    ∃ d, s.lintBytes path (text.flatMap String.utf8EncodeChar) = [d] ∧
      d.file = path ∧ d.code = "SYN001" ∧ d.severity = .error := by
  apply s.lintBytes_of_not_isProgram path
  rintro ⟨text', stmts, hencode, -, hparse⟩
  have hdecode := (Text.decodeUtf8_eq_ok_iff _ text).mpr rfl
  have hdecode' := (Text.decodeUtf8_eq_ok_iff _ text').mpr hencode
  obtain rfl : text = text' := Except.ok.inj (hdecode.symm.trans hdecode')
  exact hwrong (parse_strings hparse hk hstring)

end NodeLint
