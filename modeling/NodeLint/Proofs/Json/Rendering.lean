import Mathlib.Data.List.Basic
import NodeLint.Proofs.Json.Grammar

/-!
# The text of a document means the document

Strings survive because every character is written as itself or by an escape that stands for it, and
one beyond the first plane by the two halves of a surrogate pair. Line breaks and indentation are
blanks, and they stand only where blanks may. A text has at most one meaning, so the text of a
document means that document and no other.

Whatever is not between the space and the tilde is escaped, apart from the line breaks between the
parts of a text.
-/

namespace NodeLint.Json

/-! ## Strings -/

/-- A hexadecimal digit has the value that it was made for. -/
theorem hexDigit?_hexDigit {n : Nat} (hn : n < 16) : Toml.hexDigit? (Text.hexDigit n) = some n :=
  (by decide : ∀ n < 16, Toml.hexDigit? (Text.hexDigit n) = some n) n hn

/-- Four hexadecimal digits stand for the unit that they were made for. -/
theorem unit?_hexDigits {n : Nat} (hn : n < 0x10000) :
    unit? (Text.hexDigit (n / 16 / 16 / 16 % 16)) (Text.hexDigit (n / 16 / 16 % 16))
      (Text.hexDigit (n / 16 % 16)) (Text.hexDigit (n % 16)) = some n := by
  have hmod (m : Nat) : m % 16 < 16 := Nat.mod_lt m (by decide)
  simp only [unit?, List.mapM_cons, List.mapM_nil, hexDigit?_hexDigit (hmod _), bind, Option.bind,
    pure, List.foldl_cons, List.foldl_nil]
  exact congrArg some (by omega)

/-- A character is written by a short escape, as itself, or by its UTF-16 units. -/
theorem escapeChar_cases (c : Char) :
    (∃ e ∈ ['"', '\\', 'n', 'r', 't', 'b', 'f'],
      shortEscape? e = some c ∧ escapeChar c = ['\\', e]) ∨
    (' ' ≤ c ∧ c ≤ '~' ∧ c ≠ '"' ∧ c ≠ '\\' ∧ escapeChar c = [c]) ∨
    (c.toNat < 0x10000 ∧ escapeChar c = unitEscape c.toNat) ∨
    (0x10000 ≤ c.toNat ∧ escapeChar c =
      unitEscape (0xD800 + (c.toNat - 0x10000) / 0x400) ++
        unitEscape (0xDC00 + (c.toNat - 0x10000) % 0x400)) := by
  by_cases hshort : c ∈ ['"', '\\', '\n', '\r', '\t', '\x08', '\x0c']
  · simp only [List.mem_cons, List.not_mem_nil, or_false] at hshort
    rcases hshort with rfl | rfl | rfl | rfl | rfl | rfl | rfl
    · exact .inl ⟨'"', by decide, rfl, rfl⟩
    · exact .inl ⟨'\\', by decide, rfl, rfl⟩
    · exact .inl ⟨'n', by decide, rfl, rfl⟩
    · exact .inl ⟨'r', by decide, rfl, rfl⟩
    · exact .inl ⟨'t', by decide, rfl, rfl⟩
    · exact .inl ⟨'b', by decide, rfl, rfl⟩
    · exact .inl ⟨'f', by decide, rfl, rfl⟩
  · simp only [List.mem_cons, List.not_mem_nil, or_false, not_or] at hshort
    obtain ⟨hquote, hslash, hn, hr, ht, hb, hf⟩ := hshort
    rw [escapeChar, if_neg hquote, if_neg hslash, if_neg hn, if_neg hr, if_neg ht, if_neg hb,
      if_neg hf]
    by_cases hplain : 32 ≤ c.toNat ∧ c.toNat ≤ 126
    · rw [if_pos (by simp only [Bool.and_eq_true, decide_eq_true_eq]; omega)]
      exact .inr (.inl ⟨hplain.1, hplain.2, hquote, hslash, rfl⟩)
    · rw [if_neg (by simp only [Bool.and_eq_true, decide_eq_true_eq]; omega)]
      by_cases hunit : c.toNat < 0x10000
      · rw [if_pos hunit]
        exact .inr (.inr (.inl ⟨hunit, rfl⟩))
      · rw [if_neg hunit]
        exact .inr (.inr (.inr ⟨Nat.le_of_not_lt hunit, rfl⟩))

/-- A character is written so that it can be read. -/
theorem characterAt_escapeChar (c : Char) (rest : List Char) :
    CharacterAt (escapeChar c ++ rest) c rest := by
  have hvalid : c.toNat < 0xD800 ∨ 0xDFFF < c.toNat ∧ c.toNat < 0x110000 := c.valid
  obtain ⟨e, -, he, heq⟩ | ⟨hle, -, hquote, hslash, heq⟩ | ⟨hlt, heq⟩ | ⟨hle, heq⟩ :=
    escapeChar_cases c
  · rw [heq]
    exact .short he
  · rw [heq]
    exact .plain hle hquote hslash
  · rw [heq]
    exact .unit (unit?_hexDigits hlt)
  · -- The two halves are ten bits each of what exceeds the first plane.
    rw [heq]
    exact .pair (unit?_hexDigits (by omega)) (by omega) (unit?_hexDigits (by omega)) (by omega)
      (by omega)

/-- A string is written so that it can be read. -/
theorem charactersAt_escapeChar (s rest : List Char) :
    CharactersAt (s.flatMap escapeChar ++ '"' :: rest) s rest := by
  induction s with
  | nil => exact .close
  | cons c s ih =>
    rw [List.flatMap_cons, List.append_assoc]
    exact .more (characterAt_escapeChar c _) ih

theorem toList_renderString (s : String) (rest : List Char) :
    (renderString s).toList ++ rest = '"' :: (s.toList.flatMap escapeChar ++ '"' :: rest) := by
  simp [renderString]

/-! ## Numbers -/

/-- Whether a number that stands before a text ends there. -/
def EndsNumber (rest : List Char) : Prop := ∀ c ∈ rest.head?, c.isDigit = false

theorem endsNumber_cons {c : Char} (hc : c.isDigit = false) (cs : List Char) :
    EndsNumber (c :: cs) := by
  rintro _ ⟨⟩
  exact hc

/-- Only zero is written with a zero in front. -/
theorem eq_zero_of_head?_toDigits {n : Nat} (h : (Nat.toDigits 10 n).head? = some '0') : n = 0 := by
  induction n using Nat.strongRecOn with
  | ind n ih =>
    by_cases hn : n < 10
    · rw [Nat.toDigits_of_lt_base hn, List.head?_singleton] at h
      exact (by decide : ∀ n < 10, some n.digitChar = some '0' → n = 0) n hn h
    · rw [Nat.toDigits_of_base_le (by decide) (by omega),
        List.head?_append_of_ne_nil _ Nat.toDigits_ne_nil] at h
      have := ih (n / 10) (by omega) h
      omega

/-- A numeral is written so that it can be read. -/
theorem numeralAt_toDigits (n : Nat) {rest : List Char} (hrest : EndsNumber rest) :
    NumeralAt (Nat.toDigits 10 n ++ rest) n rest := by
  have hdigit : ∀ c ∈ Nat.toDigits 10 n, c.isDigit = true := fun c hc =>
    Nat.isDigit_of_mem_toDigits (by decide) (by decide) hc
  have hends : rest.takeWhile Char.isDigit = [] ∧ rest.dropWhile Char.isDigit = rest := by
    cases rest with
    | nil => exact ⟨rfl, rfl⟩
    | cons c cs =>
      have hc : c.isDigit = false := hrest c rfl
      exact ⟨List.takeWhile_cons_of_neg (by simp [hc]), List.dropWhile_cons_of_neg (by simp [hc])⟩
  have hdigits : (Nat.toDigits 10 n ++ rest).takeWhile Char.isDigit = Nat.toDigits 10 n := by
    rw [List.takeWhile_append_of_pos hdigit, hends.1, List.append_nil]
  refine ⟨?_, ?_, ?_, ?_⟩
  · rw [hdigits]
    exact Nat.toDigits_ne_nil
  · rw [hdigits]
    intro hzero
    rw [eq_zero_of_head?_toDigits hzero]
    rfl
  · rw [hdigits]
    exact Nat.ofDigitChars_toDigits (by decide) (by decide)
  · rw [List.dropWhile_append_of_pos hdigit, hends.2]

/-- A number is written so that it can be read. -/
theorem numberAt_toString (n : Int) {rest : List Char} (hrest : EndsNumber rest) :
    NumberAt ((toString n).toList ++ rest) n rest := by
  rw [Int.toString_eq_repr, Int.repr_eq_if]
  split
  · rename_i hn
    rw [Nat.toList_repr]
    have h := NumberAt.natural (numeralAt_toDigits n.toNat hrest)
    rwa [Int.toNat_of_nonneg hn] at h
  · rename_i hn
    rw [String.toList_append, Nat.toList_repr]
    have h := NumberAt.negative (numeralAt_toDigits (-n).toNat hrest)
    rwa [Int.toNat_of_nonneg (by omega), Int.neg_neg] at h

/-! ## Documents -/

theorem eq_space_of_mem_indentation {level : Nat} {c : Char}
    (h : c ∈ (indentation level).toList) : c = ' ' := by
  rw [indentation, String.toList_ofList] at h
  exact List.eq_of_mem_replicate h

/-- Texts one a line, behind line breaks and with commas between them. -/
def rows (level : Nat) (texts : List String) : List Char :=
  '\n' :: (Text.join ",\n" (texts.map (indentation level ++ ·))).toList

theorem rows_singleton (level : Nat) (text : String) (rest : List Char) :
    rows level [text] ++ rest = '\n' :: (indentation level).toList ++ (text.toList ++ rest) := by
  simp [rows, Text.join]

theorem rows_cons (level : Nat) (text : String) {texts : List String} (h : texts ≠ [])
    (rest : List Char) :
    rows level (text :: texts) ++ rest =
      '\n' :: (indentation level).toList ++ (text.toList ++ ',' :: (rows level texts ++ rest)) := by
  cases texts with
  | nil => exact absurd rfl h
  | cons t texts => simp [rows, Text.join]

/-- Between brackets stand rows, and the closing bracket on a line of its own. -/
theorem toList_bracketed (opening closing : String) (level : Nat) {texts : List String}
    (h : texts ≠ []) (rest : List Char) :
    (bracketed opening closing level texts).toList ++ rest =
      opening.toList ++ (rows (level + 1) texts ++
        ('\n' :: (indentation level).toList ++ (closing.toList ++ rest))) := by
  cases texts with
  | nil => exact absurd rfl h
  | cons t texts => simp [bracketed, rows]

/-- The blanks of a new line. -/
theorem isBlank_of_mem_newline {level : Nat} {c : Char}
    (h : c ∈ '\n' :: (indentation level).toList) : isBlank c = true := by
  rcases List.mem_cons.mp h with rfl | h
  · decide
  · rw [eq_space_of_mem_indentation h]
    decide

/-- A value may stand behind blanks. -/
theorem ValueAt.behind {cs rest : List Char} {v : Json} (h : ValueAt cs v rest)
    {blanks : List Char} (hblanks : ∀ c ∈ blanks, isBlank c = true) :
    ValueAt (skipBlanks (blanks ++ cs)) v rest := by
  obtain ⟨c, ds, rfl, hc, -⟩ := h.exists_head
  rwa [skipBlanks_append hblanks, skipBlanks_cons hc]

/-- A closing bracket may stand on a new line. -/
theorem skipBlanks_newline {c : Char} (hc : isBlank c = false) (level : Nat) (rest : List Char) :
    skipBlanks ('\n' :: (indentation level).toList ++ c :: rest) = c :: rest := by
  rw [skipBlanks_append fun _ => isBlank_of_mem_newline, skipBlanks_cons hc]

/-- What holds of a document as soon as it holds of its items and of the values of its members
holds of every document. -/
@[elab_as_elim]
theorem induction_parts {motive : Json → Prop} (null : motive .null) (bool : ∀ b, motive (.bool b))
    (int : ∀ n, motive (.int n)) (str : ∀ s, motive (.str s))
    (arr : ∀ items, (∀ v ∈ items, motive v) → motive (.arr items))
    (obj : ∀ members : List (String × Json), (∀ m ∈ members, motive m.2) → motive (.obj members))
    (v : Json) : motive v :=
  @Json.rec motive (fun items => ∀ v ∈ items, motive v) (fun members => ∀ m ∈ members, motive m.2)
    (fun m => motive m.2) null bool int str arr obj
    (List.forall_mem_nil _) (fun _ _ hv hitems => List.forall_mem_cons.mpr ⟨hv, hitems⟩)
    (List.forall_mem_nil _) (fun _ _ hm hmembers => List.forall_mem_cons.mpr ⟨hm, hmembers⟩)
    (fun _ _ hv => hv) v

theorem renderItems_eq_map (level : Nat) (items : List Json) :
    renderItems level items = items.map (renderAt level) := by
  induction items with
  | nil => rfl
  | cons v items ih => rw [renderItems, ih, List.map_cons]

/-- The text of a member of an object. -/
def renderMember (level : Nat) (m : String × Json) : String :=
  renderString m.1 ++ ": " ++ renderAt level m.2

theorem renderMembers_eq_map (level : Nat) (members : List (String × Json)) :
    renderMembers level members = members.map (renderMember level) := by
  induction members with
  | nil => rfl
  | cons m members ih => rw [renderMembers, ih, List.map_cons, renderMember]

/-- Whether the text of a document at a level can be read, whatever follows it. -/
def Readable (level : Nat) (v : Json) : Prop :=
  ∀ {rest : List Char}, EndsNumber rest → ValueAt ((renderAt level v).toList ++ rest) v rest

/-- The items of an array can be read, up to a bracket on a line of its own. -/
theorem itemsAt_rows {level outer : Nat} {items : List Json} (hne : items ≠ [])
    (h : ∀ v ∈ items, Readable level v) (rest : List Char) :
    ItemsAt (rows level (items.map (renderAt level)) ++
      ('\n' :: (indentation outer).toList ++ ']' :: rest)) items rest := by
  induction items with
  | nil => exact absurd rfl hne
  | cons v items ih =>
    obtain ⟨hv, hitems⟩ := List.forall_mem_cons.mp h
    by_cases hnil : items = []
    · subst hnil
      rw [List.map_singleton, rows_singleton]
      refine .last ((hv (endsNumber_cons (by decide) _)).behind ?_)
        (skipBlanks_newline (by decide) outer rest)
      exact fun _ => isBlank_of_mem_newline
    · rw [List.map_cons, rows_cons _ _ (List.map_eq_nil_iff.not.mpr hnil)]
      refine .more ((hv (endsNumber_cons (by decide) _)).behind ?_) (skipBlanks_cons (by decide) _)
        (ih hnil hitems)
      exact fun _ => isBlank_of_mem_newline

theorem memberAt_newline {level : Nat} {m : String × Json} (h : Readable level m.2)
    {rest : List Char} (hrest : EndsNumber rest) :
    MemberAt ('\n' :: (indentation level).toList ++ ((renderMember level m).toList ++ rest)) m
      rest := by
  have htext : (renderMember level m).toList ++ rest =
      '"' :: (m.1.toList.flatMap escapeChar ++ '"' :: ':' :: ' ' ::
        ((renderAt level m.2).toList ++ rest)) := by
    simp [renderMember, renderString]
  rw [htext]
  have hblank : ∀ c ∈ [' '], isBlank c = true := List.forall_mem_singleton.mpr (by decide)
  exact .mk (skipBlanks_newline (by decide) level _) (charactersAt_escapeChar _ _)
    (skipBlanks_cons (by decide) _) ((h hrest).behind hblank)

/-- The members of an object can be read, up to a brace on a line of its own. -/
theorem membersAt_rows {level outer : Nat} {members : List (String × Json)} (hne : members ≠ [])
    (h : ∀ m ∈ members, Readable level m.2) (rest : List Char) :
    MembersAt (rows level (members.map (renderMember level)) ++
      ('\n' :: (indentation outer).toList ++ '}' :: rest)) members rest := by
  induction members with
  | nil => exact absurd rfl hne
  | cons m members ih =>
    obtain ⟨hm, hmembers⟩ := List.forall_mem_cons.mp h
    by_cases hnil : members = []
    · subst hnil
      rw [List.map_singleton, rows_singleton]
      exact .last (memberAt_newline hm (endsNumber_cons (by decide) _))
        (skipBlanks_newline (by decide) outer rest)
    · rw [List.map_cons, rows_cons _ _ (List.map_eq_nil_iff.not.mpr hnil)]
      exact .more (memberAt_newline hm (endsNumber_cons (by decide) _))
        (skipBlanks_cons (by decide) _) (ih hnil hmembers)

/-- A document is written so that it can be read. -/
theorem readable (level : Nat) (v : Json) : Readable level v := by
  -- The level is general because items and members stand one level deeper.
  induction v using induction_parts generalizing level with
  | null =>
    intro rest _
    have hword : "null".toList = ['n', 'u', 'l', 'l'] := by decide
    rw [renderAt]
    exact hword ▸ .null
  | bool b =>
    intro rest _
    cases b with
    | false =>
      have hword : "false".toList = ['f', 'a', 'l', 's', 'e'] := by decide
      rw [renderAt]
      exact hword ▸ .boolFalse
    | true =>
      have hword : "true".toList = ['t', 'r', 'u', 'e'] := by decide
      rw [renderAt]
      exact hword ▸ .boolTrue
  | int n => exact fun hrest => .int (numberAt_toString n hrest)
  | str s =>
    intro rest _
    rw [renderAt, toList_renderString]
    exact .str (charactersAt_escapeChar s.toList rest)
  | arr items ih =>
    intro rest _
    rw [renderAt, renderItems_eq_map]
    by_cases hnil : items = []
    · subst hnil
      have htext : ("[" ++ "]").toList = ['[', ']'] := by decide
      rw [List.map_nil, bracketed, htext]
      exact .emptyArr (skipBlanks_cons (by decide) rest)
    · rw [toList_bracketed _ _ _ (List.map_eq_nil_iff.not.mpr hnil)]
      exact .arr (itemsAt_rows hnil (fun v hv => ih v hv _) rest)
  | obj members ih =>
    intro rest _
    rw [renderAt, renderMembers_eq_map]
    by_cases hnil : members = []
    · subst hnil
      have htext : ("\x7b" ++ "\x7d").toList = ['{', '}'] := by decide
      rw [List.map_nil, bracketed, htext]
      exact .emptyObj (skipBlanks_cons (by decide) rest)
    · rw [toList_bracketed _ _ _ (List.map_eq_nil_iff.not.mpr hnil)]
      exact .obj (membersAt_rows hnil (fun m hm => ih m hm _) rest)

/-! ## Plain text -/

/-- Whether a text is made of line breaks and of the characters from the space to the tilde. -/
def IsPlain (cs : List Char) : Prop := ∀ c ∈ cs, c = '\n' ∨ ' ' ≤ c ∧ c ≤ '~'

theorem isPlain_append {cs ds : List Char} : IsPlain (cs ++ ds) ↔ IsPlain cs ∧ IsPlain ds :=
  List.forall_mem_append

theorem isPlain_cons {c : Char} {cs : List Char} :
    IsPlain (c :: cs) ↔ (c = '\n' ∨ ' ' ≤ c ∧ c ≤ '~') ∧ IsPlain cs :=
  List.forall_mem_cons

instance (cs : List Char) : Decidable (IsPlain cs) :=
  List.decidableBAll (fun c => c = '\n' ∨ ' ' ≤ c ∧ c ≤ '~') cs

theorem isPlain_unitEscape (n : Nat) : IsPlain (unitEscape n) := by
  have hdigit (m : Nat) : IsPlain [Text.hexDigit (m % 16)] :=
    (by decide : ∀ k < 16, IsPlain [Text.hexDigit k]) (m % 16) (Nat.mod_lt m (by decide))
  have hpadded (width : Nat) : ∀ m, IsPlain (Text.hexPadded width m) := by
    induction width with
    | zero => exact fun _ => List.forall_mem_nil _
    | succ w ih => exact fun m => isPlain_append.mpr ⟨ih (m / 16), hdigit m⟩
  exact isPlain_cons.mpr ⟨by decide, isPlain_cons.mpr ⟨by decide, hpadded 4 n⟩⟩

theorem isPlain_escapeChar (c : Char) : IsPlain (escapeChar c) := by
  obtain ⟨e, he, -, heq⟩ | ⟨hle, hge, -, -, heq⟩ | ⟨-, heq⟩ | ⟨-, heq⟩ := escapeChar_cases c
  · have hescapes : IsPlain ['"', '\\', 'n', 'r', 't', 'b', 'f'] := by decide
    rw [heq]
    exact isPlain_cons.mpr ⟨by decide, isPlain_cons.mpr ⟨hescapes e he, by decide⟩⟩
  · rw [heq]
    exact isPlain_cons.mpr ⟨.inr ⟨hle, hge⟩, by decide⟩
  · rw [heq]
    exact isPlain_unitEscape _
  · rw [heq]
    exact isPlain_append.mpr ⟨isPlain_unitEscape _, isPlain_unitEscape _⟩

theorem isPlain_renderString (s : String) : IsPlain (renderString s).toList := by
  rw [renderString, String.toList_ofList]
  refine isPlain_append.mpr ⟨isPlain_cons.mpr ⟨by decide, fun c hc => ?_⟩, by decide⟩
  obtain ⟨d, -, hd⟩ := List.mem_flatMap.mp hc
  exact isPlain_escapeChar d c hd

theorem isPlain_toString (n : Int) : IsPlain (toString n).toList := by
  have hdigits (m : Nat) : IsPlain m.repr.toList := by
    intro c hc
    rw [Nat.toList_repr] at hc
    have hdigit : c.isDigit = true := Nat.isDigit_of_mem_toDigits (by decide) (by decide) hc
    simp only [Char.isDigit, Bool.and_eq_true, decide_eq_true_eq, UInt32.le_iff_toNat_le] at hdigit
    have hle : 32 ≤ c.toNat := Nat.le_trans (by decide) hdigit.1
    have hge : c.toNat ≤ 126 := Nat.le_trans hdigit.2 (by decide)
    exact .inr ⟨hle, hge⟩
  rw [Int.toString_eq_repr, Int.repr_eq_if]
  split
  · exact hdigits _
  · rw [String.toList_append]
    exact isPlain_append.mpr ⟨by decide, hdigits _⟩

theorem isPlain_newline (level : Nat) : IsPlain ('\n' :: (indentation level).toList) := by
  refine isPlain_cons.mpr ⟨.inl rfl, fun c hc => ?_⟩
  rw [eq_space_of_mem_indentation hc]
  decide

theorem isPlain_rows (level : Nat) {texts : List String} (h : ∀ t ∈ texts, IsPlain t.toList) :
    IsPlain (rows level texts) := by
  induction texts with
  | nil => exact (by decide : IsPlain ['\n'])
  | cons text texts ih =>
    obtain ⟨htext, htexts⟩ := List.forall_mem_cons.mp h
    rw [← List.append_nil (rows level (text :: texts))]
    by_cases hnil : texts = []
    · subst hnil
      rw [rows_singleton, List.append_nil]
      exact isPlain_append.mpr ⟨isPlain_newline level, htext⟩
    · rw [rows_cons _ _ hnil, List.append_nil]
      exact isPlain_append.mpr ⟨isPlain_newline level, isPlain_append.mpr
        ⟨htext, isPlain_cons.mpr ⟨by decide, ih htexts⟩⟩⟩

theorem isPlain_bracketed {opening closing : String} (hopening : IsPlain opening.toList)
    (hclosing : IsPlain closing.toList) (level : Nat) {texts : List String}
    (h : ∀ t ∈ texts, IsPlain t.toList) :
    IsPlain (bracketed opening closing level texts).toList := by
  by_cases hnil : texts = []
  · subst hnil
    rw [bracketed, String.toList_append]
    exact isPlain_append.mpr ⟨hopening, hclosing⟩
  · rw [← List.append_nil (bracketed opening closing level texts).toList,
      toList_bracketed _ _ _ hnil, List.append_nil]
    exact isPlain_append.mpr ⟨hopening, isPlain_append.mpr ⟨isPlain_rows _ h,
      isPlain_append.mpr ⟨isPlain_newline level, hclosing⟩⟩⟩

/-- The text of a document is plain. -/
theorem isPlain_renderAt (level : Nat) (v : Json) : IsPlain (renderAt level v).toList := by
  induction v using induction_parts generalizing level with
  | null =>
    rw [renderAt]
    decide
  | bool b =>
    rw [renderAt]
    cases b <;> decide
  | int n => exact isPlain_toString n
  | str s => exact isPlain_renderString s
  | arr items ih =>
    rw [renderAt, renderItems_eq_map]
    refine isPlain_bracketed (by decide) (by decide) level (List.forall_mem_map.mpr ?_)
    exact fun v hv => ih v hv _
  | obj members ih =>
    rw [renderAt, renderMembers_eq_map]
    refine isPlain_bracketed (by decide) (by decide) level (List.forall_mem_map.mpr ?_)
    intro m hm
    rw [renderMember, String.toList_append, String.toList_append]
    exact isPlain_append.mpr ⟨isPlain_append.mpr ⟨isPlain_renderString _, by decide⟩, ih m hm _⟩

/-- The text of a document means this document and no other. -/
theorem denotes_render (v w : Json) : Denotes v.render w ↔ w = v := by
  have hv : Denotes v.render v := by
    have h : ValueAt ((renderAt 0 v).toList ++ []) v [] := readable 0 v nofun
    have hskip := h.behind (List.forall_mem_nil fun c => isBlank c = true)
    rw [List.nil_append, List.append_nil] at hskip
    exact ⟨[], hskip, rfl⟩
  exact ⟨fun hw => hw.unique hv, fun hw => hw ▸ hv⟩

end NodeLint.Json
