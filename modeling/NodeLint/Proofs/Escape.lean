import Mathlib.Algebra.Group.Nat.Defs
import Mathlib.Data.List.TakeWhile
import NodeLint.Source.Escape

/-!
# Texts whose escapes are right

The decoder is handed a text in which characters outside ASCII are spelled as escapes. These escapes
are right, and behind them the decoder stands where it would stand without them. Each fault it finds
is therefore that of an escape in the text itself.
-/

namespace NodeLint

namespace Text

/-- A padded numeral has as many digits as it is wide. -/
theorem length_hexPadded (width n : Nat) : (hexPadded width n).length = width := by
  induction width generalizing n with
  | zero => rfl
  | succ width ih => simp [hexPadded, ih]

/-- A padded numeral has hexadecimal digits only. -/
theorem isHexadecimal_of_mem_hexPadded {width n : Nat} {c : Char} (hc : c ∈ hexPadded width n) :
    Source.Radix.hexadecimal.has c = true := by
  induction width generalizing n with
  | zero => cases hc
  | succ width ih =>
    rcases List.mem_append.mp hc with hc | hc
    · exact ih hc
    · rw [List.mem_singleton.mp hc]
      exact (by decide : ∀ k < 16, Source.Radix.hexadecimal.has (hexDigit k) = true) (n % 16)
        (Nat.mod_lt n (by decide))

/-- A padded numeral in capitals has the value of the number, as far as it is wide. -/
theorem hexValue_hexPadded (width n : Nat) :
    hexValue ((hexPadded width n).map Char.toUpper) = n % 16 ^ width := by
  have hdigit (k : Nat) : hexDigitValue (hexDigit (k % 16)).toUpper = k % 16 :=
    (by decide : ∀ k < 16, hexDigitValue (hexDigit k).toUpper = k) (k % 16)
      (Nat.mod_lt k (by decide))
  induction width generalizing n with
  | zero => rw [Nat.pow_zero, Nat.mod_one]; rfl
  | succ width ih =>
    have hlast : hexValue ((hexPadded (width + 1) n).map Char.toUpper) =
        16 * hexValue ((hexPadded width (n / 16)).map Char.toUpper) +
          hexDigitValue (hexDigit (n % 16)).toUpper := by
      simp [hexPadded, hexValue]
    rw [hlast, ih, hdigit, Nat.pow_succ, Nat.mul_comm (16 ^ width), Nat.mod_mul, Nat.add_comm]

end Text

namespace Source

/-- The escapes of a text are right, each judged by its letter and by what follows the letter. -/
inductive Escaped (right : Char → List Char → Prop) : List Char → Prop where
  | nil : Escaped right []
  | lone : Escaped right ['\\']
  | plain {c : Char} {cs : List Char} (hc : c ≠ '\\') (hrest : Escaped right cs) :
      Escaped right (c :: cs)
  | escape {c : Char} {cs : List Char} (hright : right c cs) (hrest : Escaped right cs) :
      Escaped right ('\\' :: c :: cs)

/-- An escape in a text literal is right. -/
def IsCharacterEscape (letter : Char) (cs : List Char) : Prop :=
  escapeFault? letter (decoderText cs) = none

/-- An escape in a bytes literal is right: one by number has two digits. -/
def IsByteEscape (letter : Char) (cs : List Char) : Prop :=
  letter = 'x' → 2 ≤ ((cs.take 2).takeWhile Radix.hexadecimal.has).length

variable {right : Char → List Char → Prop} {c : Char} {cs : List Char}

/-- A character that starts no escape does not count. -/
theorem escaped_cons_iff (hc : c ≠ '\\') : Escaped right (c :: cs) ↔ Escaped right cs := by
  constructor
  · intro h
    cases h with
    | lone => exact .nil
    | plain _ hrest => exact hrest
    | escape => exact absurd rfl hc
  · exact .plain hc

/-- An escape counts, and so does what follows it. -/
theorem escaped_escape_iff :
    Escaped right ('\\' :: c :: cs) ↔ right c cs ∧ Escaped right cs := by
  constructor
  · intro h
    cases h with
    | plain hc _ => exact absurd rfl hc
    | escape hright hrest => exact ⟨hright, hrest⟩
  · exact fun h => .escape h.1 h.2

/-! ## The decoder -/

/-- The decoder passes a character that starts no escape. -/
theorem firstFault?_cons_of_ne (hc : c ≠ '\\') (n : Nat) :
    firstFault? n (c :: cs) = firstFault? (n + 1) cs := by
  rw [firstFault?]
  exact fun _ _ hslash => absurd hslash hc

/-- The decoder passes a text without escapes. -/
theorem firstFault?_append {front : List Char} (hfront : '\\' ∉ front) (n : Nat) :
    firstFault? n (front ++ cs) = firstFault? (n + front.length) cs := by
  induction front generalizing n with
  | nil => rfl
  | cons c front ih =>
    rw [List.mem_cons, not_or] at hfront
    rw [List.cons_append, firstFault?_cons_of_ne (Ne.symm hfront.1), ih hfront.2, List.length_cons,
      Nat.add_assoc, Nat.add_comm 1]

/-- The decoder passes an escape that is right. -/
theorem firstFault?_escape (n : Nat) : firstFault? n ('\\' :: c :: cs) = none ↔
    escapeFault? c cs = none ∧ firstFault? (n + 2) cs = none := by
  rw [firstFault?]
  cases escapeFault? c cs <;> simp

/-- The escape of any character is right. -/
theorem escapeFault?_hexPadded (c : Char) (cs : List Char) :
    escapeFault? 'U' (Text.hexPadded 8 c.toNat ++ cs) = none := by
  have hlength := Text.length_hexPadded 8 c.toNat
  have htake : (Text.hexPadded 8 c.toNat ++ cs).take 8 = Text.hexPadded 8 c.toNat :=
    List.take_left' hlength
  have hdigits : (Text.hexPadded 8 c.toNat).takeWhile Radix.hexadecimal.has =
      Text.hexPadded 8 c.toNat :=
    List.takeWhile_eq_self_iff.mpr fun _ => Text.isHexadecimal_of_mem_hexPadded
  have hvalue : Text.hexValue ((Text.hexPadded 8 c.toNat).map Char.toUpper) ≤ 0x10FFFF := by
    rw [Text.hexValue_hexPadded]
    have hvalid : c.toNat < 0xD800 ∨ 0xDFFF < c.toNat ∧ c.toNat < 0x110000 := c.valid
    omega
  simp [escapeFault?, numberFault?, htake, hdigits, hlength, hvalue]

/-- The decoder passes the escape of a character. -/
theorem firstFault?_longEscape (n : Nat) :
    firstFault? n (decoderText.longEscape c ++ cs) = none ↔ firstFault? (n + 10) cs = none := by
  have hslash : '\\' ∉ Text.hexPadded 8 c.toNat := fun h =>
    absurd (Text.isHexadecimal_of_mem_hexPadded h) (by decide)
  rw [decoderText.longEscape, List.cons_append, List.cons_append, firstFault?_escape,
    firstFault?_append hslash, Text.length_hexPadded]
  exact and_iff_right (escapeFault?_hexPadded c cs)

/-- The decoder passes the escape of a backslash. -/
theorem firstFault?_backslashEscape (n : Nat) :
    firstFault? n (backslashEscape ++ cs) = none ↔ firstFault? (n + 6) cs = none := by
  have hslash : '\\' ∉ "005c".toList := by decide
  have hsplit : backslashEscape ++ cs = '\\' :: 'u' :: ("005c".toList ++ cs) := rfl
  rw [hsplit, firstFault?_escape, firstFault?_append hslash]
  exact and_iff_right rfl

/-- An escape with a letter outside ASCII stands for itself. -/
theorem escapeFault?_of_le (hc : 128 ≤ c.toNat) (cs : List Char) : escapeFault? c cs = none := by
  have hne (letter : Char) (hletter : letter.toNat < 128) : c ≠ letter := by
    rintro rfl
    omega
  simp [escapeFault?, hne]

/-- The decoder finds nothing in a text exactly if the escapes of the text are right. -/
theorem firstFault?_decoderText (n : Nat) (text : List Char) :
    firstFault? n (decoderText text) = none ↔ Escaped IsCharacterEscape text := by
  fun_induction decoderText text generalizing n with
  | case1 => exact iff_of_true rfl .nil
  | case2 => exact iff_of_true rfl .lone
  | case3 c cs hc ih => rw [firstFault?_escape, escaped_escape_iff, ih, IsCharacterEscape]
  | case4 c cs hc ih =>
    rw [List.append_assoc, firstFault?_backslashEscape, firstFault?_longEscape, ih,
      escaped_escape_iff]
    exact (and_iff_right (escapeFault?_of_le (Nat.le_of_not_lt hc) _)).symm
  | case5 c cs hlone hescape ih =>
    have hslash : c ≠ '\\' := by
      rintro rfl
      cases cs with
      | nil => exact hlone rfl rfl
      | cons d cs => exact hescape d cs rfl rfl
    rw [escaped_cons_iff hslash]
    split
    · rw [List.singleton_append, firstFault?_cons_of_ne hslash, ih]
    · rw [firstFault?_longEscape, ih]

/-- Nothing is said about a text exactly if its escapes are right. -/
theorem badEscape?_eq_none_iff (text : List Char) :
    badEscape? text = none ↔ Escaped IsCharacterEscape text := by
  rw [badEscape?, Option.map_eq_none_iff, firstFault?_decoderText]

/-- A path with backslashes is not right: its first escape has no digits. -/
example : badEscape? "C:\\Users".toList = some ("(unicode error) 'unicodeescape' codec can't " ++
    "decode bytes in position 2-3: truncated \\UXXXXXXXX escape") := by
  decide +kernel

/-- Nothing is said about bytes exactly if their escapes are right. -/
theorem badByteEscape?_eq_none_iff (text : List Char) :
    badByteEscape? text = none ↔ Escaped IsByteEscape text := by
  rw [badByteEscape?, Option.map_eq_none_iff]
  generalize 0 = n
  fun_induction badByteAt? n text with
  | case1 n => exact iff_of_true rfl .nil
  | case2 n c cs hwrong =>
    refine iff_of_false nofun fun h => ?_
    simp only [Bool.and_eq_true, decide_eq_true_eq] at hwrong
    exact absurd ((escaped_escape_iff.mp h).1 hwrong.1) (Nat.not_le_of_lt hwrong.2)
  | case3 n c cs hright ih =>
    simp only [Bool.and_eq_true, decide_eq_true_eq, not_and, Nat.not_lt] at hright
    rw [ih, escaped_escape_iff]
    exact (and_iff_right hright).symm
  | case4 n c cs hescape ih =>
    rw [ih]
    by_cases hslash : c = '\\'
    · subst hslash
      cases cs with
      | nil => exact iff_of_true .nil .lone
      | cons d cs => exact (hescape d cs rfl rfl).elim
    · exact (escaped_cons_iff hslash).symm

end Source
end NodeLint
