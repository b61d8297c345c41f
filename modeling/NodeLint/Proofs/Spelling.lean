import Mathlib.Data.List.TakeWhile
import NodeLint.Proofs.Lines
import NodeLint.Proofs.Pragma

/-!
# How a pragma is spelled

A line holds a pragma exactly if it can be written as some text, a hash sign, the words of the
pragma with blanks between them, codes in brackets and a tail. Such a spelling is known by the text
before its hash sign, and the one with the shortest text is read: it says whether the pragma is for
the whole file and whether it stands behind other text, its codes are what is between the commas of
the brackets, and its reason is what follows `because:`.
-/

namespace NodeLint

namespace Text

/-! ## Blanks at the ends, and parts between separators -/

/-- Nothing but blanks. -/
def Blank (cs : List Char) : Prop := ∀ c ∈ cs, isBlank c = true

/-- What is left of a text if blanks are dropped from both ends. -/
structure Stripped (cs core : List Char) : Prop where
  split : ∃ left right, cs = left ++ (core ++ right) ∧ Blank left ∧ Blank right
  first : ∀ c, core.head? = some c → isBlank c = false
  last : ∀ c, core.getLast? = some c → isBlank c = false

/-- A front of a text is taken as far as it goes, if what follows it does not begin so. -/
theorem takeWhile_front {p : Char → Bool} {front rest : List Char}
    (hfront : ∀ c ∈ front, p c = true) (hrest : ∀ c, rest.head? = some c → p c = false) :
    (front ++ rest).takeWhile p = front ∧ (front ++ rest).dropWhile p = rest := by
  rw [List.takeWhile_append_of_pos hfront, List.dropWhile_append_of_pos hfront]
  cases rest with
  | nil => simp
  | cons c rest => simp [hrest c rfl]

/-- Two ways to write a text with such a front are one. -/
theorem front_unique {p : Char → Bool} {front front' rest rest' : List Char}
    (hfront : ∀ c ∈ front, p c = true) (hfront' : ∀ c ∈ front', p c = true)
    (hrest : ∀ c, rest.head? = some c → p c = false)
    (hrest' : ∀ c, rest'.head? = some c → p c = false) (h : front ++ rest = front' ++ rest') :
    front = front' ∧ rest = rest' := by
  obtain ⟨htake, hdrop⟩ := takeWhile_front hfront hrest
  obtain ⟨htake', hdrop'⟩ := takeWhile_front hfront' hrest'
  exact ⟨htake.symm.trans (h ▸ htake'), hdrop.symm.trans (h ▸ hdrop')⟩

/-- A text without a character consists of others. -/
theorem all_ne {x : Char} {cs : List Char} (h : x ∉ cs) : ∀ c ∈ cs, decide (c ≠ x) = true := by
  intro c hc
  exact decide_eq_true (ne_of_mem_of_not_mem hc h)

/-- Trimming strips. -/
theorem stripped_trim (cs : List Char) : Stripped cs (trim cs) := by
  have hright := List.takeWhile_append_dropWhile (p := isBlank)
    (l := (cs.dropWhile isBlank).reverse)
  have hcore : cs.dropWhile isBlank =
      trim cs ++ ((cs.dropWhile isBlank).reverse.takeWhile isBlank).reverse := by
    rw [trim, ← List.reverse_append, hright, List.reverse_reverse]
  constructor
  · refine ⟨cs.takeWhile isBlank, ((cs.dropWhile isBlank).reverse.takeWhile isBlank).reverse, ?_,
      fun c hc => of_mem_takeWhile hc, fun c hc => of_mem_takeWhile (List.mem_reverse.mp hc)⟩
    rw [← hcore, List.takeWhile_append_dropWhile]
  · intro c hc
    have hfirst : (cs.dropWhile isBlank).head? = some c := by
      rw [hcore, List.head?_append, hc, Option.some_or]
    exact head?_dropWhile hfirst
  · intro c hc
    rw [trim, List.getLast?_reverse] at hc
    exact head?_dropWhile hc

/-- Only trimming strips. -/
theorem Stripped.eq_trim {cs core : List Char} (h : Stripped cs core) : core = trim cs := by
  obtain ⟨left, right, rfl, hleft, hright⟩ := h.split
  rw [trim, List.dropWhile_append_of_pos hleft]
  cases core with
  | nil =>
    have hnil : right.dropWhile isBlank = [] := List.dropWhile_eq_nil_iff.mpr hright
    simp [hnil]
  | cons c core =>
    have hlast : ∀ d, (c :: core).reverse.head? = some d → isBlank d = false := by
      intro d hd
      rw [List.head?_reverse] at hd
      exact h.last d hd
    have hback : (right.reverse ++ (c :: core).reverse).dropWhile isBlank = (c :: core).reverse :=
      (takeWhile_front (fun d hd => hright d (List.mem_reverse.mp hd)) hlast).2
    rw [List.cons_append, List.dropWhile_cons_of_neg (by simp [h.first c rfl]), ← List.cons_append,
      List.reverse_append, hback, List.reverse_reverse]

/-- A text is trimmed away exactly if it is blank. -/
theorem trim_eq_nil_iff {cs : List Char} : trim cs = [] ↔ Blank cs := by
  constructor
  · intro h
    obtain ⟨left, right, hcs, hleft, hright⟩ := (stripped_trim cs).split
    rw [h, List.nil_append] at hcs
    intro c hc
    rw [hcs, List.mem_append] at hc
    exact hc.elim (hleft c) (hright c)
  · intro h
    have hstripped : Stripped cs [] :=
      ⟨⟨cs, [], by simp, h, by simp [Blank]⟩, by simp, by simp⟩
    exact hstripped.eq_trim.symm

/-- A text is cut into the parts between its separators. -/
theorem mem_pieces_iff {sep : Char} {cs piece : List Char} :
    piece ∈ pieces sep cs ↔
      ∃ left right, cs = left ++ (piece ++ right) ∧ Between sep left piece right := by
  simp only [List.mem_iff_getElem?, getElem?_pieces_iff]
  constructor
  · intro ⟨n, left, right, hcs, _, hbetween⟩
    exact ⟨left, right, hcs, hbetween⟩
  · intro ⟨left, right, hcs, hbetween⟩
    exact ⟨_, left, right, hcs, rfl, hbetween⟩

end Text

namespace Pragma

open Text (Blank Stripped Between isBlank)

/-! ## Spellings -/

/-- A way to write a pragma: what stands before its hash sign, the blanks behind the hash sign and
behind the colon, whether it is for the whole file, what its brackets hold, and what follows. -/
@[ext] structure Spelling where
  before : List Char
  gap : List Char
  gap' : List Char
  isFileLevel : Bool
  codes : List Char
  tail : List Char
  blank_gap : Blank gap
  blank_gap' : Blank gap'
  codes_ne_nil : codes ≠ []
  codes_free : ']' ∉ codes

/-- The words of a pragma begin with no blank. -/
theorem head_word {word : String} {c : Char} (hword : word.toList.head? = some c)
    (hc : isBlank c = false) (rest : List Char) :
    ∀ d, (word.toList ++ rest).head? = some d → isBlank d = false := by
  intro d hd
  rw [List.head?_append, hword, Option.some_or] at hd
  exact Option.some.inj hd ▸ hc

namespace Spelling

/-- From the brackets on. -/
def brackets (sp : Spelling) : List Char := '[' :: (sp.codes ++ ']' :: sp.tail)

/-- From behind the word `ignore` on. -/
def scope (sp : Spelling) : List Char :=
  (if sp.isFileLevel then "-file".toList else []) ++ sp.brackets

/-- From behind the hash sign on. -/
def body (sp : Spelling) : List Char :=
  sp.gap ++ ("graphpc-lint:".toList ++ (sp.gap' ++ ("ignore".toList ++ sp.scope)))

/-- The whole line. -/
def text (sp : Spelling) : List Char := sp.before ++ '#' :: sp.body

/-- What is read of a spelling behind its hash sign. -/
def parts (sp : Spelling) : Parts := ⟨sp.isFileLevel, sp.codes, sp.tail⟩

/-- A spelling is known by its text before the hash sign. -/
theorem eq_of_before {sp sp' : Spelling} (htext : sp.text = sp'.text)
    (hbefore : sp.before = sp'.before) : sp = sp' := by
  have hbody : sp.body = sp'.body := by
    rw [text, text, hbefore] at htext
    exact List.cons_inj_right _ |>.mp (List.append_cancel_left htext)
  obtain ⟨hgap, hrest⟩ := Text.front_unique sp.blank_gap sp'.blank_gap
    (head_word rfl (by decide) _) (head_word rfl (by decide) _) hbody
  obtain ⟨hgap', hrest⟩ := Text.front_unique sp.blank_gap' sp'.blank_gap'
    (head_word rfl (by decide) _) (head_word rfl (by decide) _) (List.append_cancel_left hrest)
  have hscope : sp.scope = sp'.scope := List.append_cancel_left hrest
  obtain ⟨hfile, hbrackets⟩ : sp.isFileLevel = sp'.isFileLevel ∧ sp.brackets = sp'.brackets := by
    cases hf : sp.isFileLevel <;> cases hf' : sp'.isFileLevel <;>
      simp_all [scope, brackets]
  obtain ⟨hcodes, htail⟩ := Text.front_unique (Text.all_ne sp.codes_free)
    (Text.all_ne sp'.codes_free) (by simp) (by simp) (List.cons_inj_right _ |>.mp hbrackets)
  exact Spelling.ext hbefore hgap hgap' hfile hcodes (List.cons_inj_right _ |>.mp htail)

end Spelling

/-! ## What is read behind a hash sign -/

/-- A word is looked for at the front only. -/
theorem after?_eq_some_iff {word : String} {cs rest : List Char} :
    after? word cs = some rest ↔ cs = word.toList ++ rest := by
  rw [after?]
  constructor
  · intro h
    split at h
    · rename_i hprefix
      obtain ⟨rest', rfl⟩ := List.isPrefixOf_iff_prefix.mp hprefix
      rw [List.drop_left, Option.some.injEq] at h
      rw [h]
    · cases h
  · intro h
    rw [h, if_pos (List.isPrefixOf_iff_prefix.mpr (List.prefix_append _ _)), List.drop_left]

/-- In one line, the brackets reach up to the first one that closes them, and the tail up to the
end. -/
theorem bracketed?_eq_some_iff {isFileLevel : Bool} {cs : List Char} {p : Parts} (hcs : '\n' ∉ cs) :
    bracketed? isFileLevel cs = some p ↔
      ∃ codes tail, cs = '[' :: (codes ++ ']' :: tail) ∧ codes ≠ [] ∧ ']' ∉ codes ∧
        p = ⟨isFileLevel, codes, tail⟩ := by
  have hline {tail : List Char} (htail : '\n' ∉ tail) :
      tail.takeWhile (· ≠ '\n') = tail ∧ tail.dropWhile (· ≠ '\n') = [] := by
    exact ⟨List.takeWhile_eq_self_iff.mpr (Text.all_ne htail),
      List.dropWhile_eq_nil_iff.mpr (Text.all_ne htail)⟩
  constructor
  · intro h
    rw [bracketed?.eq_def] at h
    split at h
    · rename_i cs
      have hsplit := List.takeWhile_append_dropWhile (p := fun c => decide (c ≠ ']')) (l := cs)
      simp only at h
      split at h
      · rename_i c codes tail hcodes htail
        rw [hcodes, htail] at hsplit
        have htail : '\n' ∉ tail := by
          intro hmem
          exact hcs (by simp [← hsplit, hmem])
        simp only [hline htail, hcodes, Option.ite_none_right_eq_some, Option.some.injEq] at h
        refine ⟨c :: codes, tail, by rw [hsplit], by simp, ?_, h.2.symm⟩
        intro hmem
        rw [← hcodes] at hmem
        simpa using Text.of_mem_takeWhile hmem
      · cases h
    · cases h
  · intro ⟨codes, tail, hsplit, hne, hfree, hp⟩
    have htail : '\n' ∉ tail := by
      intro hmem
      exact hcs (by simp [hsplit, hmem])
    have hclosing : ∀ c, (']' :: tail).head? = some c → decide (c ≠ ']') = false := by simp
    obtain ⟨htake, hdrop⟩ := Text.takeWhile_front (Text.all_ne hfree) hclosing
    obtain ⟨c, codes, rfl⟩ := List.exists_cons_of_ne_nil hne
    rw [hsplit, hp, bracketed?]
    simp only [htake, hdrop, hline htail]
    rfl

/-- A word is found behind blanks. -/
theorem after?_gap {gap : List Char} (hgap : Blank gap) {word : String} {c : Char}
    (hword : word.toList.head? = some c) (hc : isBlank c = false) (rest : List Char) :
    after? word ((gap ++ (word.toList ++ rest)).dropWhile isBlank) = some rest := by
  rw [(Text.takeWhile_front hgap (head_word hword hc rest)).2, after?_eq_some_iff]

/-- Of every spelling in one line its parts are read. -/
theorem parts?_body (sp : Spelling) (hbody : '\n' ∉ sp.body) : parts? sp.body = some sp.parts := by
  have hbrackets : bracketed? sp.isFileLevel sp.brackets = some sp.parts := by
    have hline : '\n' ∉ sp.brackets := by
      intro hmem
      exact hbody (by simp only [Spelling.body, Spelling.scope, List.mem_append, hmem, or_true])
    rw [bracketed?_eq_some_iff hline]
    exact ⟨sp.codes, sp.tail, rfl, sp.codes_ne_nil, sp.codes_free, rfl⟩
  rw [parts?, Spelling.body, after?_gap sp.blank_gap rfl (by decide), Option.bind_eq_bind,
    Option.bind_some, after?_gap sp.blank_gap' rfl (by decide), Option.bind_some, ← hbrackets,
    Spelling.scope]
  cases sp.isFileLevel with
  | true => rw [if_pos rfl, after?_eq_some_iff.mpr rfl]
  | false => simp [Spelling.brackets, after?]

/-- What is read behind a hash sign in one line is spelled there. -/
theorem exists_spelling {cs : List Char} {p : Parts} (hcs : '\n' ∉ cs) (h : parts? cs = some p)
    (before : List Char) :
    ∃ sp : Spelling, sp.text = before ++ '#' :: cs ∧ sp.before = before ∧ sp.parts = p := by
  simp only [parts?, Option.bind_eq_bind, Option.bind_eq_some_iff] at h
  obtain ⟨colon, hcolon, word, hword, hscope⟩ := h
  have hgap := List.takeWhile_append_dropWhile (p := isBlank) (l := cs)
  have hgap' := List.takeWhile_append_dropWhile (p := isBlank) (l := colon)
  rw [after?_eq_some_iff.mp hcolon] at hgap
  rw [after?_eq_some_iff.mp hword] at hgap'
  have hline : '\n' ∉ word := by
    intro hmem
    rw [← hgap, ← hgap'] at hcs
    exact hcs (by simp only [List.mem_append, hmem, or_true])
  obtain ⟨isFileLevel, brackets, hsplit, hbrackets⟩ : ∃ isFileLevel brackets,
      word = (if isFileLevel then "-file".toList else []) ++ brackets ∧
        bracketed? isFileLevel brackets = some p := by
    split at hscope
    · rename_i rest hfile
      exact ⟨true, rest, after?_eq_some_iff.mp hfile, hscope⟩
    · exact ⟨false, word, rfl, hscope⟩
  have hline : '\n' ∉ brackets := by
    rw [hsplit, List.mem_append, not_or] at hline
    exact hline.2
  obtain ⟨codes, tail, rfl, hne, hfree, rfl⟩ := (bracketed?_eq_some_iff hline).mp hbrackets
  refine ⟨⟨before, cs.takeWhile isBlank, colon.takeWhile isBlank, isFileLevel, codes, tail,
    fun c hc => Text.of_mem_takeWhile hc, fun c hc => Text.of_mem_takeWhile hc, hne, hfree⟩,
    ?_, rfl, rfl⟩
  rw [Spelling.text, Spelling.body, Spelling.scope, Spelling.brackets, ← hsplit, hgap', hgap]

/-! ## The pragma of a line -/

/-- The first hash sign that a pragma follows is found. -/
theorem search?_shortest {cs before : List Char} {p : Parts} (h : search? cs = some (before, p)) :
    (∃ rest, cs = before ++ '#' :: rest ∧ parts? rest = some p) ∧
      ∀ before' rest', cs = before' ++ '#' :: rest' → (parts? rest').isSome →
        before.length ≤ before'.length := by
  induction cs generalizing before with
  | nil => cases h
  | cons c cs ih =>
    rw [search?] at h
    split at h
    · rename_i parts hparts
      obtain ⟨rfl, rfl⟩ : [] = before ∧ parts = p := by simpa using h
      obtain ⟨rfl, hparts⟩ := Option.ite_none_right_eq_some.mp hparts
      exact ⟨⟨cs, rfl, hparts⟩, by simp⟩
    · rename_i hnone
      obtain ⟨⟨before, parts⟩, hsearch, heq⟩ := Option.map_eq_some_iff.mp h
      obtain ⟨rfl, rfl⟩ : c :: before = _ ∧ parts = p := by simpa using heq
      obtain ⟨⟨rest, rfl, hparts⟩, hshortest⟩ := ih hsearch
      refine ⟨⟨rest, rfl, hparts⟩, ?_⟩
      intro before' rest' hcs hsome
      cases before' with
      | nil =>
        obtain ⟨rfl, hrest⟩ := List.cons.inj hcs
        rw [if_pos rfl, hrest] at hnone
        simp [hnone] at hsome
      | cons d before' =>
        have hlength := hshortest before' rest' (List.cons.inj hcs).2 hsome
        simpa using hlength

/-- A pragma behind a hash sign is not missed. -/
theorem isSome_search? {before rest : List Char} (h : (parts? rest).isSome) :
    (search? (before ++ '#' :: rest)).isSome := by
  induction before with
  | nil =>
    obtain ⟨p, hp⟩ := Option.isSome_iff_exists.mp h
    simp [search?, hp]
  | cons c before ih =>
    rw [List.cons_append, search?]
    split
    · rfl
    · rwa [Option.isSome_map]

/-- The codes of a pragma are the parts between the commas, without blanks at their ends, in upper
case; a blank part is no code. -/
theorem mem_readCodes {cs : List Char} {code : String} :
    code ∈ readCodes cs ↔
      ∃ left piece right core, cs = left ++ (piece ++ right) ∧ Between ',' left piece right ∧
        Stripped piece core ∧ core ≠ [] ∧ code = Text.upper (String.ofList core) := by
  rw [readCodes, Text.mem_sortedSet, List.mem_filterMap]
  constructor
  · intro ⟨core, hcore, hcode⟩
    obtain ⟨piece, hpiece, rfl⟩ := List.mem_map.mp hcore
    obtain ⟨left, right, hcs, hbetween⟩ := Text.mem_pieces_iff.mp hpiece
    obtain ⟨hne, rfl⟩ : Text.trim piece ≠ [] ∧ Text.upper (String.ofList (Text.trim piece)) = code := by
      simpa using hcode
    exact ⟨left, piece, right, Text.trim piece, hcs, hbetween, Text.stripped_trim piece, hne, rfl⟩
  · intro ⟨left, piece, right, core, hcs, hbetween, hstripped, hne, hcode⟩
    have hpiece : piece ∈ Text.pieces ',' cs := Text.mem_pieces_iff.mpr ⟨left, right, hcs, hbetween⟩
    refine ⟨core, List.mem_map.mpr ⟨piece, hpiece, hstripped.eq_trim.symm⟩, ?_⟩
    simp [hne, hcode]

/-- The reason of a pragma is what follows `because:` at the front of its tail, without blanks at
its ends, if anything is left. -/
theorem readReason_eq_some_iff {tail : List Char} {reason : String} :
    readReason tail = some reason ↔
      ∃ gap rest, tail = gap ++ ("because:".toList ++ rest) ∧ Blank gap ∧
        Stripped rest reason.toList ∧ reason ≠ "" := by
  rw [readReason]
  constructor
  · intro h
    split at h
    · cases h
    · rename_i rest hafter
      have hsplit := List.takeWhile_append_dropWhile (p := isBlank) (l := tail)
      rw [after?_eq_some_iff.mp hafter] at hsplit
      obtain ⟨hne, rfl⟩ : Text.trim rest ≠ [] ∧ String.ofList (Text.trim rest) = reason := by
        simpa using h
      refine ⟨_, rest, hsplit.symm, fun c hc => Text.of_mem_takeWhile hc, ?_, ?_⟩
      · rw [String.toList_ofList]
        exact Text.stripped_trim rest
      · simpa [← String.toList_inj] using hne
  · intro ⟨gap, rest, htail, hgap, hstripped, hne⟩
    have hcore : Text.trim rest = reason.toList := hstripped.eq_trim.symm
    rw [htail, after?_gap hgap rfl (by decide)]
    simp [hcore, hne]

/-- What a spelling says of the pragma that is read from it. -/
structure Spelling.Gives (sp : Spelling) (p : Pragma) : Prop where
  isFileLevel : p.isFileLevel = sp.isFileLevel
  isInline : p.isInline = true ↔ sp.isFileLevel = false ∧ ∃ c ∈ sp.before, isBlank c = false
  sorted : p.codes.Pairwise (· < ·)
  codes : ∀ code, code ∈ p.codes ↔
    ∃ left piece right core, sp.codes = left ++ (piece ++ right) ∧ Between ',' left piece right ∧
      Stripped piece core ∧ core ≠ [] ∧ code = Text.upper (String.ofList core)
  reason : ∀ reason, p.reason = some reason ↔
    ∃ gap rest, sp.tail = gap ++ ("because:".toList ++ rest) ∧ Blank gap ∧
      Stripped rest reason.toList ∧ reason ≠ ""

/-- The pragma of a line is read from its first spelling. -/
theorem exists_shortest {n : Nat} {line : String} {p : Pragma} (hline : '\n' ∉ line.toList)
    (h : ofLine? n line = some p) :
    ∃ sp : Spelling, sp.text = line.toList ∧
      (∀ sp' : Spelling, sp'.text = line.toList → sp.before.length ≤ sp'.before.length) ∧
      sp.Gives p := by
  have hsorted := pairwise_codes_of_ofLine? h
  obtain ⟨⟨before, parts⟩, hsearch, rfl⟩ := Option.map_eq_some_iff.mp h
  obtain ⟨⟨rest, hrest, hparts⟩, hshortest⟩ := search?_shortest hsearch
  have hone {before' rest' : List Char} (h : line.toList = before' ++ '#' :: rest') :
      '\n' ∉ rest' := by
    intro hmem
    exact hline (by simp [h, hmem])
  obtain ⟨sp, htext, rfl, rfl⟩ := exists_spelling (hone hrest) hparts before
  refine ⟨sp, htext.trans hrest.symm, ?_, rfl, ?_, hsorted, fun code => mem_readCodes,
    fun reason => readReason_eq_some_iff⟩
  · intro sp' htext'
    apply hshortest sp'.before sp'.body htext'.symm
    rw [parts?_body sp' (hone htext'.symm)]
    rfl
  · have hblank : Text.trim sp.before ≠ [] ↔ ∃ c ∈ sp.before, isBlank c = false := by
      simp [Text.trim_eq_nil_iff, Blank]
    simp [hblank, Spelling.parts]

/-- A line that a pragma is spelled in gives one. -/
theorem isSome_ofLine? {n : Nat} {line : String} {sp : Spelling} (hline : '\n' ∉ line.toList)
    (htext : sp.text = line.toList) : (ofLine? n line).isSome := by
  have hbody : '\n' ∉ sp.body := by
    intro hmem
    exact hline (by simp [← htext, Spelling.text, hmem])
  rw [ofLine?, Option.isSome_map, ← htext, Spelling.text]
  apply isSome_search?
  rw [parts?_body sp hbody]
  rfl

/-! ## The pragmas of a file -/

/-- Pragmas are read in the order of their lines, one of each line at most. -/
theorem pairwise_line_readFrom (first : Nat) (lines : List String) :
    (readFrom first lines).Pairwise fun p q => p.line < q.line := by
  induction lines generalizing first with
  | nil => exact List.Pairwise.nil
  | cons line lines ih =>
    rw [readFrom]
    cases hline : ofLine? first line with
    | none => exact ih (first + 1)
    | some p =>
      apply List.pairwise_cons.mpr
      refine ⟨?_, ih (first + 1)⟩
      intro q hq
      obtain ⟨n, text, -, hq⟩ := mem_readFrom.mp hq
      rw [line_of_ofLine? hline, line_of_ofLine? hq]
      omega

/-- The pragmas of a file are those that its lines spell: at most one for each line and in the order
of the lines, one for exactly the lines with a spelling, and read from the spelling with the
shortest text before the hash sign, which is the only one with this text. -/
theorem read_eq_spelled (lines : List String) (hlines : ∀ line ∈ lines, '\n' ∉ line.toList) :
    ((read lines).Pairwise fun p q => p.line < q.line) ∧
      (∀ n line, lines[n]? = some line →
        ((∃ p ∈ read lines, p.line = n + 1) ↔ ∃ sp : Spelling, sp.text = line.toList)) ∧
      (∀ p ∈ read lines, ∃ line, 0 < p.line ∧ lines[p.line - 1]? = some line ∧
        ∃ sp : Spelling, sp.text = line.toList ∧
          (∀ sp' : Spelling, sp'.text = line.toList → sp.before.length ≤ sp'.before.length) ∧
          (∀ sp' : Spelling, sp'.text = line.toList → sp'.before = sp.before → sp' = sp) ∧
          sp.Gives p) := by
  have hread : ∀ p ∈ read lines, ∃ line, 0 < p.line ∧ lines[p.line - 1]? = some line ∧
      ofLine? p.line line = some p := by
    intro p hp
    obtain ⟨hpos, line, hline, hof⟩ := exists_line hp
    rw [SourceFile.lineIn_of_pos lines hpos] at hline
    exact ⟨line, hpos, hline, hof⟩
  refine ⟨pairwise_line_readFrom 1 lines, ?_, ?_⟩
  · intro n line hn
    have hline := hlines line (List.mem_of_getElem? hn)
    constructor
    · intro ⟨p, hp, hnumber⟩
      obtain ⟨line', -, hline', hof⟩ := hread p hp
      obtain rfl : line = line' := by simpa [hnumber, hn] using hline'
      obtain ⟨sp, htext, -⟩ := exists_shortest hline hof
      exact ⟨sp, htext⟩
    · intro ⟨sp, htext⟩
      obtain ⟨p, hp⟩ := Option.isSome_iff_exists.mp (isSome_ofLine? (n := 1 + n) hline htext)
      refine ⟨p, mem_readFrom.mpr ⟨n, line, hn, hp⟩, ?_⟩
      rw [line_of_ofLine? hp, Nat.add_comm]
  · intro p hp
    obtain ⟨line, hpos, hn, hof⟩ := hread p hp
    obtain ⟨sp, htext, hshortest, hgives⟩ :=
      exists_shortest (hlines line (List.mem_of_getElem? hn)) hof
    refine ⟨line, hpos, hn, sp, htext, hshortest, ?_, hgives⟩
    intro sp' htext' hbefore
    exact Spelling.eq_of_before (htext'.trans htext.symm) hbefore

/-- A line whose first pragma has nothing in its brackets, and whose reason holds another one. -/
def crowded : String :=
  "x = 1  # graphpc-lint: ignore[] # graphpc-lint: ignore[a,b] because: # graphpc-lint:ignore-file[C]"

/-- The pragma in the middle is read, from the shortest spelling of the line. -/
theorem read_crowded :
    (∀ line ∈ [crowded], '\n' ∉ line.toList) ∧
    (read [crowded]).map (fun p => (p.line, p.reason, p.isFileLevel, p.isInline)) =
      [(1, some "# graphpc-lint:ignore-file[C]", false, true)] ∧
    ∃ p ∈ read [crowded], ∃ sp : Spelling, sp.text = crowded.toList ∧ sp.Gives p := by
  have hlines : ∀ line ∈ [crowded], '\n' ∉ line.toList := by decide +kernel
  have hread : (read [crowded]).map (fun p => (p.line, p.reason, p.isFileLevel, p.isInline)) =
      [(1, some "# graphpc-lint:ignore-file[C]", false, true)] := by
    decide +kernel
  obtain ⟨-, -, hspelled⟩ := read_eq_spelled [crowded] hlines
  have hne : read [crowded] ≠ [] := by
    intro hnil
    rw [hnil] at hread
    cases hread
  obtain ⟨p, hp⟩ := List.exists_mem_of_ne_nil _ hne
  obtain ⟨line, -, hline, sp, htext, -, -, hgives⟩ := hspelled p hp
  obtain rfl : line = crowded := List.mem_singleton.mp (List.mem_of_getElem? hline)
  exact ⟨hlines, hread, p, hp, sp, htext, hgives⟩

end Pragma
end NodeLint
