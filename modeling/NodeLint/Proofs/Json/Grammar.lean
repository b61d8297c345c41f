import NodeLint.Text.Json
import NodeLint.Toml.Text

/-!
# The grammar of JSON

A text is read from its front: `ValueAt cs v rest` says that a value stands at the front of `cs`,
means the document `v`, and is followed by `rest`. There is a relation of this kind for each part of
the grammar. Blanks and digits are taken as far as they go, which excludes no text: nothing that may
follow blanks starts with a blank, and nothing that may follow a numeral starts with a digit.

Documents have no numbers with a fraction or an exponent, and strings are made of characters, which
a single half of a surrogate pair is not. Texts with such parts have no meaning here. Every text has
at most one meaning.
-/

namespace NodeLint.Json

/-! ## Blanks -/

/-- Whether a character may stand between the parts of a text. -/
def isBlank (c : Char) : Bool :=
  c = ' ' || c = '\t' || c = '\n' || c = '\r'

/-- What follows the blanks at the front of a text. -/
def skipBlanks (cs : List Char) : List Char := cs.dropWhile isBlank

/-- Blanks in front make no difference. -/
theorem skipBlanks_append {blanks : List Char} (h : ∀ c ∈ blanks, isBlank c = true)
    (cs : List Char) : skipBlanks (blanks ++ cs) = skipBlanks cs :=
  List.dropWhile_append_of_pos h

/-- There are no blanks in front of another character. -/
theorem skipBlanks_cons {c : Char} (h : isBlank c = false) (cs : List Char) :
    skipBlanks (c :: cs) = c :: cs :=
  List.dropWhile_cons_of_neg (by simp [h])

/-! ## Strings -/

/-- The UTF-16 unit that four hexadecimal digits stand for. -/
def unit? (a b c d : Char) : Option Nat := do
  let digits ← [a, b, c, d].mapM Toml.hexDigit?
  return digits.foldl (fun n digit => 16 * n + digit) 0

/-- What a character behind a backslash stands for. -/
def shortEscape? : Char → Option Char
  | '"' => some '"'
  | '\\' => some '\\'
  | '/' => some '/'
  | 'b' => some '\x08'
  | 'f' => some '\x0c'
  | 'n' => some '\n'
  | 'r' => some '\r'
  | 't' => some '\t'
  | _ => none

/-- One character of a string: itself, a short escape, or one or two UTF-16 units. -/
inductive CharacterAt : List Char → Char → List Char → Prop
  | plain {c : Char} {rest : List Char} (hc : ' ' ≤ c) (hquote : c ≠ '"') (hslash : c ≠ '\\') :
      CharacterAt (c :: rest) c rest
  | short {e c : Char} {rest : List Char} (h : shortEscape? e = some c) :
      CharacterAt ('\\' :: e :: rest) c rest
  | unit {d₁ d₂ d₃ d₄ c : Char} {rest : List Char} (h : unit? d₁ d₂ d₃ d₄ = some c.toNat) :
      CharacterAt ('\\' :: 'u' :: d₁ :: d₂ :: d₃ :: d₄ :: rest) c rest
  | pair {d₁ d₂ d₃ d₄ e₁ e₂ e₃ e₄ c : Char} {high low : Nat} {rest : List Char}
      (hhigh : unit? d₁ d₂ d₃ d₄ = some (0xD800 + high)) (hhigh_lt : high < 0x400)
      (hlow : unit? e₁ e₂ e₃ e₄ = some (0xDC00 + low)) (hlow_lt : low < 0x400)
      (hc : c.toNat = 0x10000 + 0x400 * high + low) :
      CharacterAt ('\\' :: 'u' :: d₁ :: d₂ :: d₃ :: d₄ :: '\\' :: 'u' :: e₁ :: e₂ :: e₃ :: e₄ ::
        rest) c rest

/-- The characters of a string up to the closing quote, which is taken too. -/
inductive CharactersAt : List Char → List Char → List Char → Prop
  | close {rest : List Char} : CharactersAt ('"' :: rest) [] rest
  | more {cs ds rest : List Char} {c : Char} {s : List Char} (hc : CharacterAt cs c ds)
      (hs : CharactersAt ds s rest) : CharactersAt cs (c :: s) rest

/-! ## Numbers -/

/-- A number in decimal digits, without a zero in front of others. -/
structure NumeralAt (cs : List Char) (n : Nat) (rest : List Char) : Prop where
  digits_ne_nil : cs.takeWhile Char.isDigit ≠ []
  leading_zero :
    (cs.takeWhile Char.isDigit).head? = some '0' → cs.takeWhile Char.isDigit = ['0']
  value : Nat.ofDigitChars 10 (cs.takeWhile Char.isDigit) 0 = n
  behind : cs.dropWhile Char.isDigit = rest

/-- A number that may be negative. -/
inductive NumberAt : List Char → Int → List Char → Prop
  | natural {cs : List Char} {n : Nat} {rest : List Char} (h : NumeralAt cs n rest) :
      NumberAt cs n rest
  | negative {cs : List Char} {n : Nat} {rest : List Char} (h : NumeralAt cs n rest) :
      NumberAt ('-' :: cs) (-n) rest

/-! ## Documents -/

mutual

/-- A value, without blanks around it. -/
inductive ValueAt : List Char → Json → List Char → Prop
  | null {rest : List Char} : ValueAt ('n' :: 'u' :: 'l' :: 'l' :: rest) .null rest
  | boolTrue {rest : List Char} : ValueAt ('t' :: 'r' :: 'u' :: 'e' :: rest) (.bool true) rest
  | boolFalse {rest : List Char} :
      ValueAt ('f' :: 'a' :: 'l' :: 's' :: 'e' :: rest) (.bool false) rest
  | int {cs rest : List Char} {n : Int} (h : NumberAt cs n rest) : ValueAt cs (.int n) rest
  | str {cs rest : List Char} {s : String} (h : CharactersAt cs s.toList rest) :
      ValueAt ('"' :: cs) (.str s) rest
  | emptyArr {cs rest : List Char} (h : skipBlanks cs = ']' :: rest) :
      ValueAt ('[' :: cs) (.arr []) rest
  | arr {cs rest : List Char} {items : List Json} (h : ItemsAt cs items rest) :
      ValueAt ('[' :: cs) (.arr items) rest
  | emptyObj {cs rest : List Char} (h : skipBlanks cs = '}' :: rest) :
      ValueAt ('{' :: cs) (.obj []) rest
  | obj {cs rest : List Char} {members : List (String × Json)} (h : MembersAt cs members rest) :
      ValueAt ('{' :: cs) (.obj members) rest

/-- The items of an array up to the closing bracket, which is taken too. -/
inductive ItemsAt : List Char → List Json → List Char → Prop
  | last {cs ds rest : List Char} {v : Json} (hv : ValueAt (skipBlanks cs) v ds)
      (hclose : skipBlanks ds = ']' :: rest) : ItemsAt cs [v] rest
  | more {cs ds es rest : List Char} {v : Json} {items : List Json}
      (hv : ValueAt (skipBlanks cs) v ds) (hcomma : skipBlanks ds = ',' :: es)
      (hitems : ItemsAt es items rest) : ItemsAt cs (v :: items) rest

/-- The members of an object up to the closing brace, which is taken too. -/
inductive MembersAt : List Char → List (String × Json) → List Char → Prop
  | last {cs rest : List Char} {m : String × Json} {ds : List Char} (hm : MemberAt cs m ds)
      (hclose : skipBlanks ds = '}' :: rest) : MembersAt cs [m] rest
  | more {cs rest : List Char} {m : String × Json} {ds es : List Char}
      {members : List (String × Json)} (hm : MemberAt cs m ds)
      (hcomma : skipBlanks ds = ',' :: es) (hmembers : MembersAt es members rest) :
      MembersAt cs (m :: members) rest

/-- A member of an object: its key and its value. -/
inductive MemberAt : List Char → String × Json → List Char → Prop
  | mk {cs ds es fs rest : List Char} {key : String} {v : Json}
      (hquote : skipBlanks cs = '"' :: ds) (hkey : CharactersAt ds key.toList es)
      (hcolon : skipBlanks es = ':' :: fs) (hv : ValueAt (skipBlanks fs) v rest) :
      MemberAt cs (key, v) rest

end

/-- A text is the text of a document, with blanks around it. -/
def Denotes (text : String) (v : Json) : Prop :=
  ∃ rest, ValueAt (skipBlanks text.toList) v rest ∧ skipBlanks rest = []

/-! ## One meaning -/

/-- No character is the first half of a surrogate pair. -/
theorem toNat_ne_surrogate (c : Char) {n : Nat} (hn : n < 0x400) : c.toNat ≠ 0xD800 + n := by
  have hvalid : c.toNat < 0xD800 ∨ 0xDFFF < c.toNat ∧ c.toNat < 0x110000 := c.valid
  omega

theorem CharacterAt.unique {cs rest rest' : List Char} {c c' : Char} (h : CharacterAt cs c rest)
    (h' : CharacterAt cs c' rest') : c = c' ∧ rest = rest' := by
  cases h with
  | plain hc hquote hslash =>
    cases h' with
    | plain => exact ⟨rfl, rfl⟩
    | short | unit | pair => exact absurd rfl hslash
  | short h =>
    cases h' with
    | plain _ _ hslash => exact absurd rfl hslash
    | short h' => exact ⟨Option.some.inj (h.symm.trans h'), rfl⟩
    | unit | pair => exact nomatch h
  | unit h =>
    cases h' with
    | plain _ _ hslash => exact absurd rfl hslash
    | short h' => exact nomatch h'
    | unit h' => exact ⟨Char.toNat_inj.mp (Option.some.inj (h.symm.trans h')), rfl⟩
    | pair hhigh hhigh_lt =>
      exact absurd (Option.some.inj (h.symm.trans hhigh)) (toNat_ne_surrogate _ hhigh_lt)
  | pair hhigh hhigh_lt hlow hlow_lt hc =>
    cases h' with
    | plain _ _ hslash => exact absurd rfl hslash
    | short h' => exact nomatch h'
    | unit h' =>
      exact absurd (Option.some.inj (h'.symm.trans hhigh)) (toNat_ne_surrogate _ hhigh_lt)
    | pair hhigh' _ hlow' _ hc' =>
      have hhighs := Option.some.inj (hhigh.symm.trans hhigh')
      have hlows := Option.some.inj (hlow.symm.trans hlow')
      exact ⟨Char.toNat_inj.mp (by omega), rfl⟩

theorem CharactersAt.unique {cs s rest s' rest' : List Char} (h : CharactersAt cs s rest)
    (h' : CharactersAt cs s' rest') : s = s' ∧ rest = rest' := by
  -- A quote is no character of a string.
  have hclose {cs ds : List Char} {c : Char} : ¬ CharacterAt ('"' :: cs) c ds := by
    rintro (⟨-, hquote, -⟩ | _ | _ | _)
    exact hquote rfl
  induction h generalizing s' with
  | close =>
    cases h' with
    | close => exact ⟨rfl, rfl⟩
    | more hc => exact absurd hc hclose
  | more hc _ ih =>
    cases h' with
    | close => exact absurd hc hclose
    | more hc' hs' =>
      obtain ⟨rfl, rfl⟩ := hc.unique hc'
      obtain ⟨rfl, rfl⟩ := ih hs'
      exact ⟨rfl, rfl⟩

theorem NumeralAt.unique {cs rest rest' : List Char} {n n' : Nat} (h : NumeralAt cs n rest)
    (h' : NumeralAt cs n' rest') : n = n' ∧ rest = rest' :=
  ⟨h.value.symm.trans h'.value, h.behind.symm.trans h'.behind⟩

/-- A numeral starts with a digit. -/
theorem NumeralAt.exists_head {cs rest : List Char} {n : Nat} (h : NumeralAt cs n rest) :
    ∃ c ds, cs = c :: ds ∧ c.isDigit = true := by
  cases cs with
  | nil => exact absurd rfl h.digits_ne_nil
  | cons c ds =>
    cases hc : c.isDigit with
    | false => exact absurd (List.takeWhile_cons_of_neg (by simp [hc])) h.digits_ne_nil
    | true => exact ⟨c, ds, rfl, hc⟩

/-- A number starts with a digit or the minus sign. -/
theorem NumberAt.exists_head {cs rest : List Char} {n : Int} (h : NumberAt cs n rest) :
    ∃ c ds, cs = c :: ds ∧ (c = '-' ∨ c.isDigit = true) := by
  cases h with
  | natural h =>
    obtain ⟨c, ds, rfl, hc⟩ := h.exists_head
    exact ⟨c, ds, rfl, .inr hc⟩
  | negative => exact ⟨_, _, rfl, .inl rfl⟩

/-- The minus sign starts no numeral. -/
theorem not_numeralAt_minus {cs rest : List Char} {n : Nat} : ¬ NumeralAt ('-' :: cs) n rest := by
  intro h
  obtain ⟨c, ds, hcs, hc⟩ := h.exists_head
  obtain ⟨rfl, -⟩ := List.cons.inj hcs
  exact absurd hc (by decide)

theorem not_numberAt_cons {c : Char} (hc : c.isDigit = false) (hminus : c ≠ '-')
    {cs rest : List Char} {n : Int} : ¬ NumberAt (c :: cs) n rest := by
  intro h
  obtain ⟨d, ds, hcs, rfl | hd⟩ := h.exists_head
  · exact hminus (List.cons.inj hcs).1
  · obtain ⟨rfl, -⟩ := List.cons.inj hcs
    exact absurd hd (by simp [hc])

theorem NumberAt.unique {cs rest rest' : List Char} {n n' : Int} (h : NumberAt cs n rest)
    (h' : NumberAt cs n' rest') : n = n' ∧ rest = rest' := by
  cases h with
  | natural h =>
    cases h' with
    | natural h' =>
      obtain ⟨rfl, rfl⟩ := h.unique h'
      exact ⟨rfl, rfl⟩
    | negative => exact absurd h not_numeralAt_minus
  | negative h =>
    cases h' with
    | natural h' => exact absurd h' not_numeralAt_minus
    | negative h' =>
      obtain ⟨rfl, rfl⟩ := h.unique h'
      exact ⟨rfl, rfl⟩

/-- A value starts with a character that is neither a blank nor a closing bracket. -/
theorem ValueAt.exists_head {cs rest : List Char} {v : Json} (h : ValueAt cs v rest) :
    ∃ c ds, cs = c :: ds ∧ isBlank c = false ∧ c ≠ ']' := by
  cases h with
  | int h =>
    obtain ⟨c, ds, rfl, rfl | hc⟩ := h.exists_head
    · exact ⟨_, _, rfl, by decide, by decide⟩
    · have hne (d : Char) (hd : d.isDigit = false) : c ≠ d := by
        rintro rfl
        exact absurd hc (by simp [hd])
      refine ⟨c, ds, rfl, ?_, hne ']' (by decide)⟩
      simp [isBlank, hne ' ' (by decide), hne '\t' (by decide), hne '\n' (by decide),
        hne '\r' (by decide)]
  | _ => exact ⟨_, _, rfl, by decide, by decide⟩

/-- The items of an array do not start with the closing bracket. -/
theorem ItemsAt.skipBlanks_ne {cs ds rest : List Char} {items : List Json}
    (h : ItemsAt cs items rest) : skipBlanks cs ≠ ']' :: ds := by
  intro hclose
  have hhead {v : Json} {es : List Char} (hv : ValueAt (skipBlanks cs) v es) : False := by
    obtain ⟨c, _, hc, -, hne⟩ := hv.exists_head
    exact hne (List.cons.inj (hc.symm.trans hclose)).1
  cases h with
  | last hv => exact hhead hv
  | more hv => exact hhead hv

/-- The members of an object do not start with the closing brace. -/
theorem MembersAt.skipBlanks_ne {cs ds rest : List Char} {members : List (String × Json)}
    (h : MembersAt cs members rest) : skipBlanks cs ≠ '}' :: ds := by
  intro hclose
  have hhead {m : String × Json} {es : List Char} : ¬ MemberAt cs m es := by
    rintro ⟨hquote, -, -, -⟩
    exact absurd (List.cons.inj (hquote.symm.trans hclose)).1 (by decide)
  cases h with
  | last hm => exact hhead hm
  | more hm => exact hhead hm

-- The recursion is on the first reading, and the second is taken apart along with it. What tells
-- two rules apart is the first character, or the character behind an opening bracket.
mutual

theorem ValueAt.unique {cs rest rest' : List Char} {v v' : Json} (h : ValueAt cs v rest)
    (h' : ValueAt cs v' rest') : v = v' ∧ rest = rest' := by
  cases h with
  | null =>
    cases h' with
    | null => exact ⟨rfl, rfl⟩
    | int h' => exact absurd h' (not_numberAt_cons (by decide) (by decide))
  | boolTrue =>
    cases h' with
    | boolTrue => exact ⟨rfl, rfl⟩
    | int h' => exact absurd h' (not_numberAt_cons (by decide) (by decide))
  | boolFalse =>
    cases h' with
    | boolFalse => exact ⟨rfl, rfl⟩
    | int h' => exact absurd h' (not_numberAt_cons (by decide) (by decide))
  | int h =>
    cases h' with
    | int h' =>
      obtain ⟨rfl, rfl⟩ := h.unique h'
      exact ⟨rfl, rfl⟩
    | _ => exact absurd h (not_numberAt_cons (by decide) (by decide))
  | str h =>
    cases h' with
    | int h' => exact absurd h' (not_numberAt_cons (by decide) (by decide))
    | str h' =>
      obtain ⟨hs, rfl⟩ := h.unique h'
      exact ⟨congrArg Json.str (String.toList_inj.mp hs), rfl⟩
  | emptyArr h =>
    cases h' with
    | int h' => exact absurd h' (not_numberAt_cons (by decide) (by decide))
    | emptyArr h' => exact ⟨rfl, (List.cons.inj (h.symm.trans h')).2⟩
    | arr h' => exact absurd h h'.skipBlanks_ne
  | arr h =>
    cases h' with
    | int h' => exact absurd h' (not_numberAt_cons (by decide) (by decide))
    | emptyArr h' => exact absurd h' h.skipBlanks_ne
    | arr h' =>
      obtain ⟨rfl, rfl⟩ := h.unique h'
      exact ⟨rfl, rfl⟩
  | emptyObj h =>
    cases h' with
    | int h' => exact absurd h' (not_numberAt_cons (by decide) (by decide))
    | emptyObj h' => exact ⟨rfl, (List.cons.inj (h.symm.trans h')).2⟩
    | obj h' => exact absurd h h'.skipBlanks_ne
  | obj h =>
    cases h' with
    | int h' => exact absurd h' (not_numberAt_cons (by decide) (by decide))
    | emptyObj h' => exact absurd h' h.skipBlanks_ne
    | obj h' =>
      obtain ⟨rfl, rfl⟩ := h.unique h'
      exact ⟨rfl, rfl⟩

theorem ItemsAt.unique {cs rest rest' : List Char} {items items' : List Json}
    (h : ItemsAt cs items rest) (h' : ItemsAt cs items' rest') :
    items = items' ∧ rest = rest' := by
  cases h with
  | last hv hclose =>
    cases h' with
    | last hv' hclose' =>
      obtain ⟨rfl, rfl⟩ := hv.unique hv'
      exact ⟨rfl, (List.cons.inj (hclose.symm.trans hclose')).2⟩
    | more hv' hcomma' =>
      obtain ⟨rfl, rfl⟩ := hv.unique hv'
      exact nomatch (List.cons.inj (hclose.symm.trans hcomma')).1
  | more hv hcomma hitems =>
    cases h' with
    | last hv' hclose' =>
      obtain ⟨rfl, rfl⟩ := hv.unique hv'
      exact nomatch (List.cons.inj (hclose'.symm.trans hcomma)).1
    | more hv' hcomma' hitems' =>
      obtain ⟨rfl, rfl⟩ := hv.unique hv'
      obtain ⟨-, rfl⟩ := List.cons.inj (hcomma.symm.trans hcomma')
      obtain ⟨rfl, rfl⟩ := hitems.unique hitems'
      exact ⟨rfl, rfl⟩

theorem MembersAt.unique {cs rest rest' : List Char} {members members' : List (String × Json)}
    (h : MembersAt cs members rest) (h' : MembersAt cs members' rest') :
    members = members' ∧ rest = rest' := by
  cases h with
  | last hm hclose =>
    cases h' with
    | last hm' hclose' =>
      obtain ⟨rfl, rfl⟩ := hm.unique hm'
      exact ⟨rfl, (List.cons.inj (hclose.symm.trans hclose')).2⟩
    | more hm' hcomma' =>
      obtain ⟨rfl, rfl⟩ := hm.unique hm'
      exact nomatch (List.cons.inj (hclose.symm.trans hcomma')).1
  | more hm hcomma hmembers =>
    cases h' with
    | last hm' hclose' =>
      obtain ⟨rfl, rfl⟩ := hm.unique hm'
      exact nomatch (List.cons.inj (hclose'.symm.trans hcomma)).1
    | more hm' hcomma' hmembers' =>
      obtain ⟨rfl, rfl⟩ := hm.unique hm'
      obtain ⟨-, rfl⟩ := List.cons.inj (hcomma.symm.trans hcomma')
      obtain ⟨rfl, rfl⟩ := hmembers.unique hmembers'
      exact ⟨rfl, rfl⟩

theorem MemberAt.unique {cs rest rest' : List Char} {m m' : String × Json}
    (h : MemberAt cs m rest) (h' : MemberAt cs m' rest') : m = m' ∧ rest = rest' := by
  cases h with
  | mk hquote hkey hcolon hv =>
    cases h' with
    | mk hquote' hkey' hcolon' hv' =>
      obtain ⟨-, rfl⟩ := List.cons.inj (hquote.symm.trans hquote')
      obtain ⟨hkeys, rfl⟩ := hkey.unique hkey'
      obtain ⟨-, rfl⟩ := List.cons.inj (hcolon.symm.trans hcolon')
      obtain ⟨rfl, rfl⟩ := hv.unique hv'
      exact ⟨by rw [String.toList_inj.mp hkeys], rfl⟩

end

/-- A text has at most one meaning. -/
theorem Denotes.unique {text : String} {v v' : Json} (h : Denotes text v) (h' : Denotes text v') :
    v = v' := by
  obtain ⟨_, hv, -⟩ := h
  obtain ⟨_, hv', -⟩ := h'
  exact (hv.unique hv').1

end NodeLint.Json
