import NodeLint.Text.Utf8

/-!
# Reading UTF-8 back

The strict reading of bytes accepts exactly the encodings of texts, and gives the text that is
encoded. The bounds on the second byte of a sequence are what excludes overlong forms, surrogates
and values beyond the last character: within them, a sequence and the value it stands for determine
each other.
-/

namespace NodeLint.Text

open String (utf8EncodeChar)

/-! ## The bytes of one character -/

/-- A character has its number. -/
theorem toNat_ofNat {v : Nat} (hv : v.isValidChar) : (Char.ofNat v).val.toNat = v := by
  rw [Char.ofNat, dif_pos hv]
  rfl

/-- A character of one byte. -/
theorem utf8EncodeChar_one {v : Nat} (hhigh : v < 0x80) :
    utf8EncodeChar (Char.ofNat v) = [UInt8.ofNat v] := by
  have hone : v ≤ 127 := by omega
  simp only [utf8EncodeChar, toNat_ofNat (Or.inl (by omega) : v.isValidChar), hone, if_true]

/-- A character of two bytes. -/
theorem utf8EncodeChar_two {v : Nat} (hlow : 0x80 ≤ v) (hhigh : v < 0x800) :
    utf8EncodeChar (Char.ofNat v) = [UInt8.ofNat (v / 64 + 192), UInt8.ofNat (v % 64 + 128)] := by
  have hmod : v / 64 % 32 = v / 64 := by omega
  have hone : ¬ v ≤ 127 := by omega
  have htwo : v ≤ 2047 := by omega
  simp only [utf8EncodeChar, toNat_ofNat (Or.inl (by omega) : v.isValidChar), hone, htwo, if_true,
    if_false, hmod]

/-- A character of three bytes. -/
theorem utf8EncodeChar_three {v : Nat} (hlow : 0x800 ≤ v) (hhigh : v < 0x10000)
    (hv : v.isValidChar) :
    utf8EncodeChar (Char.ofNat v) = [UInt8.ofNat (v / 4096 + 224), UInt8.ofNat (v / 64 % 64 + 128),
      UInt8.ofNat (v % 64 + 128)] := by
  have hmod : v / 4096 % 16 = v / 4096 := by omega
  have hone : ¬ v ≤ 127 := by omega
  have htwo : ¬ v ≤ 2047 := by omega
  have hthree : v ≤ 65535 := by omega
  simp only [utf8EncodeChar, toNat_ofNat hv, hone, htwo, hthree, if_true, if_false, hmod]

/-- A character of four bytes. -/
theorem utf8EncodeChar_four {v : Nat} (hlow : 0x10000 ≤ v) (hv : v.isValidChar) :
    utf8EncodeChar (Char.ofNat v) = [UInt8.ofNat (v / 262144 + 240),
      UInt8.ofNat (v / 4096 % 64 + 128), UInt8.ofNat (v / 64 % 64 + 128),
      UInt8.ofNat (v % 64 + 128)] := by
  have hhigh : v < 0x110000 := by rcases hv with hv | hv <;> omega
  have hmod : v / 262144 % 8 = v / 262144 := by omega
  have hone : ¬ v ≤ 127 := by omega
  have htwo : ¬ v ≤ 2047 := by omega
  have hthree : ¬ v ≤ 65535 := by omega
  simp only [utf8EncodeChar, toNat_ofNat hv, hone, htwo, hthree, if_false, hmod]

/-! ## Sequences -/

/-- A sequence goes on with a byte between the bounds. -/
theorem continueSequence_succ {position count low high value v : Nat}
    {seen bytes rest : List UInt8} :
    continueSequence position (count + 1) low high value seen bytes = .ok (v, rest) ↔
      ∃ b bs, bytes = b :: bs ∧ low ≤ b.toNat ∧ b.toNat ≤ high ∧
        continueSequence position count 0x80 0xBF (64 * value + b.toNat % 64) (b :: seen) bs =
          .ok (v, rest) := by
  cases bytes with
  | nil => simp [continueSequence]
  | cons b bs =>
    rw [continueSequence]
    split
    · rename_i hbounds
      simp only [Bool.and_eq_true, decide_eq_true_eq] at hbounds
      constructor
      · exact fun h => ⟨b, bs, rfl, hbounds.1, hbounds.2, h⟩
      · rintro ⟨b', bs', heq, -, -, h⟩
        cases heq
        exact h
    · rename_i hbounds
      simp only [Bool.and_eq_true, decide_eq_true_eq] at hbounds
      constructor
      · exact fun h => nomatch h
      · rintro ⟨b', bs', heq, hlow, hhigh, -⟩
        cases heq
        exact absurd ⟨hlow, hhigh⟩ hbounds

/-- A sequence without further bytes has its value. -/
theorem continueSequence_zero {position low high value v : Nat} {seen bytes rest : List UInt8} :
    continueSequence position 0 low high value seen bytes = .ok (v, rest) ↔
      v = value ∧ rest = bytes := by
  simp [continueSequence, eq_comm]

/-- A byte has its number. -/
theorem toNat_byte {n : Nat} (hn : n < 256) : (UInt8.ofNat n).toNat = n := by
  rw [UInt8.toNat_ofNat', Nat.mod_eq_of_lt hn]

/-- A byte is known by its number. -/
theorem eq_ofNat_iff (b : UInt8) {n : Nat} (hn : n < 256) : b = UInt8.ofNat n ↔ b.toNat = n := by
  rw [← UInt8.toNat_inj, toNat_byte hn]

/-- The leading bytes, with the number of bytes behind them and the bounds for the first of
these. -/
theorem sequenceShape?_eq_some_iff (lead : UInt8) (count low high : Nat) :
    sequenceShape? lead = some (count, low, high) ↔
      (count = 1 ∧ low = 0x80 ∧ high = 0xBF ∧ 0xC2 ≤ lead.toNat ∧ lead.toNat ≤ 0xDF) ∨
      (count = 2 ∧ 0xE0 ≤ lead.toNat ∧ lead.toNat ≤ 0xEF ∧
        low = (if lead.toNat = 0xE0 then 0xA0 else 0x80) ∧
        high = (if lead.toNat = 0xED then 0x9F else 0xBF)) ∨
      (count = 3 ∧ 0xF0 ≤ lead.toNat ∧ lead.toNat ≤ 0xF4 ∧
        low = (if lead.toNat = 0xF0 then 0x90 else 0x80) ∧
        high = (if lead.toNat = 0xF4 then 0x8F else 0xBF)) := by
  simp only [sequenceShape?, Bool.and_eq_true, decide_eq_true_eq]
  grind

/-- A sequence of several bytes is the encoding of the character with its value. -/
theorem encode_of_continueSequence {position count low high v : Nat} {b : UInt8}
    {bytes rest : List UInt8} (hshape : sequenceShape? b = some (count, low, high))
    (h : continueSequence position count low high (leadValue b count) [b] bytes = .ok (v, rest)) :
    v.isValidChar ∧ b :: bytes = utf8EncodeChar (Char.ofNat v) ++ rest ∧
      (utf8EncodeChar (Char.ofNat v)).length = count + 1 := by
  rcases (sequenceShape?_eq_some_iff b count low high).mp hshape with
    ⟨rfl, rfl, rfl, hlead⟩ | ⟨rfl, hlow, hhigh, rfl, rfl⟩ | ⟨rfl, hlow, hhigh, rfl, rfl⟩
  · obtain ⟨b₁, _, rfl, hlow₁, hhigh₁, h⟩ := continueSequence_succ.mp h
    obtain ⟨rfl, rfl⟩ := continueSequence_zero.mp h
    have hvalue : leadValue b 1 = b.toNat % 32 := rfl
    rw [hvalue, utf8EncodeChar_two (by omega) (by omega)]
    refine ⟨Or.inl (by omega), ?_, rfl⟩
    simp only [List.cons_append, List.nil_append, List.cons.injEq, and_true]
    exact ⟨(eq_ofNat_iff _ (by omega)).mpr (by omega), (eq_ofNat_iff _ (by omega)).mpr (by omega)⟩
  · obtain ⟨b₁, _, rfl, hlow₁, hhigh₁, h⟩ := continueSequence_succ.mp h
    obtain ⟨b₂, _, rfl, hlow₂, hhigh₂, h⟩ := continueSequence_succ.mp h
    obtain ⟨hv, rfl⟩ := continueSequence_zero.mp h
    have hvalue : leadValue b 2 = b.toNat % 16 := rfl
    have hfirst : 0x80 ≤ b₁.toNat ∧ b₁.toNat ≤ 0xBF ∧ (b.toNat = 0xE0 → 0xA0 ≤ b₁.toNat) ∧
        (b.toNat = 0xED → b₁.toNat ≤ 0x9F) := by
      split at hlow₁ <;> split at hhigh₁ <;> omega
    have hvalid : v.isValidChar := by
      unfold Nat.isValidChar
      omega
    rw [utf8EncodeChar_three (by omega) (by omega) hvalid]
    refine ⟨hvalid, ?_, rfl⟩
    simp only [List.cons_append, List.nil_append, List.cons.injEq, and_true]
    exact ⟨(eq_ofNat_iff _ (by omega)).mpr (by omega), (eq_ofNat_iff _ (by omega)).mpr (by omega),
      (eq_ofNat_iff _ (by omega)).mpr (by omega)⟩
  · obtain ⟨b₁, _, rfl, hlow₁, hhigh₁, h⟩ := continueSequence_succ.mp h
    obtain ⟨b₂, _, rfl, hlow₂, hhigh₂, h⟩ := continueSequence_succ.mp h
    obtain ⟨b₃, _, rfl, hlow₃, hhigh₃, h⟩ := continueSequence_succ.mp h
    obtain ⟨hv, rfl⟩ := continueSequence_zero.mp h
    have hvalue : leadValue b 3 = b.toNat % 8 := rfl
    have hfirst : 0x80 ≤ b₁.toNat ∧ b₁.toNat ≤ 0xBF ∧ (b.toNat = 0xF0 → 0x90 ≤ b₁.toNat) ∧
        (b.toNat = 0xF4 → b₁.toNat ≤ 0x8F) := by
      split at hlow₁ <;> split at hhigh₁ <;> omega
    have hvalid : v.isValidChar := by
      unfold Nat.isValidChar
      omega
    rw [utf8EncodeChar_four (by omega) hvalid]
    refine ⟨hvalid, ?_, rfl⟩
    simp only [List.cons_append, List.nil_append, List.cons.injEq, and_true]
    exact ⟨(eq_ofNat_iff _ (by omega)).mpr (by omega), (eq_ofNat_iff _ (by omega)).mpr (by omega),
      (eq_ofNat_iff _ (by omega)).mpr (by omega), (eq_ofNat_iff _ (by omega)).mpr (by omega)⟩

/-- The encoding of a character beyond the first 128 is a sequence with its value. -/
theorem continueSequence_of_encode {v : Nat} (hlow : 0x80 ≤ v) (hv : v.isValidChar) (position : Nat)
    (rest : List UInt8) :
    ∃ b bs count low high, utf8EncodeChar (Char.ofNat v) = b :: bs ∧ 0x80 ≤ b.toNat ∧
      sequenceShape? b = some (count, low, high) ∧
      continueSequence position count low high (leadValue b count) [b] (bs ++ rest) =
        .ok (v, rest) := by
  by_cases htwo : v < 0x800
  · have hb : (UInt8.ofNat (v / 64 + 192)).toNat = v / 64 + 192 := toNat_byte (by omega)
    have hb₁ : (UInt8.ofNat (v % 64 + 128)).toNat = v % 64 + 128 := toNat_byte (by omega)
    have hvalue (b : UInt8) : leadValue b 1 = b.toNat % 32 := rfl
    have hshape := (sequenceShape?_eq_some_iff (UInt8.ofNat (v / 64 + 192)) 1 _ _).mpr
      (Or.inl ⟨rfl, rfl, rfl, by omega⟩)
    refine ⟨_, _, _, _, _, utf8EncodeChar_two hlow htwo, by omega, hshape, ?_⟩
    refine continueSequence_succ.mpr ⟨_, _, rfl, by omega, by omega, ?_⟩
    refine continueSequence_zero.mpr ⟨?_, rfl⟩
    rw [hvalue]
    omega
  by_cases hthree : v < 0x10000
  · have hb : (UInt8.ofNat (v / 4096 + 224)).toNat = v / 4096 + 224 := toNat_byte (by omega)
    have hb₁ : (UInt8.ofNat (v / 64 % 64 + 128)).toNat = v / 64 % 64 + 128 := toNat_byte (by omega)
    have hb₂ : (UInt8.ofNat (v % 64 + 128)).toNat = v % 64 + 128 := toNat_byte (by omega)
    have hvalue (b : UInt8) : leadValue b 2 = b.toNat % 16 := rfl
    have hshape := (sequenceShape?_eq_some_iff (UInt8.ofNat (v / 4096 + 224)) 2 _ _).mpr
      (Or.inr (Or.inl ⟨rfl, by omega, by omega, rfl, rfl⟩))
    refine ⟨_, _, _, _, _, utf8EncodeChar_three (by omega) hthree hv, by omega, hshape, ?_⟩
    unfold Nat.isValidChar at hv
    refine continueSequence_succ.mpr ⟨_, _, rfl, by split <;> omega, by split <;> omega, ?_⟩
    refine continueSequence_succ.mpr ⟨_, _, rfl, by omega, by omega, ?_⟩
    refine continueSequence_zero.mpr ⟨?_, rfl⟩
    rw [hvalue]
    omega
  · have hhigh : v < 0x110000 := by rcases hv with hv | hv <;> omega
    have hb : (UInt8.ofNat (v / 262144 + 240)).toNat = v / 262144 + 240 := toNat_byte (by omega)
    have hb₁ : (UInt8.ofNat (v / 4096 % 64 + 128)).toNat = v / 4096 % 64 + 128 :=
      toNat_byte (by omega)
    have hb₂ : (UInt8.ofNat (v / 64 % 64 + 128)).toNat = v / 64 % 64 + 128 := toNat_byte (by omega)
    have hb₃ : (UInt8.ofNat (v % 64 + 128)).toNat = v % 64 + 128 := toNat_byte (by omega)
    have hvalue (b : UInt8) : leadValue b 3 = b.toNat % 8 := rfl
    have hshape := (sequenceShape?_eq_some_iff (UInt8.ofNat (v / 262144 + 240)) 3 _ _).mpr
      (Or.inr (Or.inr ⟨rfl, by omega, by omega, rfl, rfl⟩))
    refine ⟨_, _, _, _, _, utf8EncodeChar_four (by omega) hv, by omega, hshape, ?_⟩
    refine continueSequence_succ.mpr ⟨_, _, rfl, by split <;> omega, by split <;> omega, ?_⟩
    refine continueSequence_succ.mpr ⟨_, _, rfl, by omega, by omega, ?_⟩
    refine continueSequence_succ.mpr ⟨_, _, rfl, by omega, by omega, ?_⟩
    refine continueSequence_zero.mpr ⟨?_, rfl⟩
    rw [hvalue]
    omega

/-! ## Texts -/

/-- A computation in two parts succeeds exactly if both parts do. -/
theorem bind_eq_ok {ε α β : Type} {x : Except ε α} {f : α → Except ε β} {b : β} :
    x >>= f = .ok b ↔ ∃ a, x = .ok a ∧ f a = .ok b := by
  constructor
  · intro h
    cases x with
    | error e => exact nomatch h
    | ok a => exact ⟨a, rfl, h⟩
  · rintro ⟨a, rfl, h⟩
    exact h

/-- One step of the reading takes the encoding of one character. -/
theorem decodeFrom_cons {fuel position : Nat} {bytes : List UInt8} {text : List Char}
    (hbytes : bytes ≠ []) :
    decodeFrom (fuel + 1) position bytes = .ok text ↔
      ∃ c rest cs, bytes = utf8EncodeChar c ++ rest ∧
        decodeFrom fuel (position + (utf8EncodeChar c).length) rest = .ok cs ∧ text = c :: cs := by
  obtain ⟨b, bs, rfl⟩ := List.exists_cons_of_ne_nil hbytes
  rw [decodeFrom]
  constructor
  · intro h
    split at h
    · rename_i hascii
      obtain ⟨cs, hcs, h⟩ := bind_eq_ok.mp h
      cases h
      refine ⟨Char.ofNat b.toNat, bs, cs, ?_, ?_, rfl⟩
      · rw [utf8EncodeChar_one hascii, UInt8.ofNat_toNat, List.singleton_append]
      · rwa [utf8EncodeChar_one hascii, List.length_singleton]
    · split at h
      · exact nomatch h
      · rename_i count low high hshape
        obtain ⟨⟨v, rest⟩, hsequence, h⟩ := bind_eq_ok.mp h
        obtain ⟨cs, hcs, h⟩ := bind_eq_ok.mp h
        cases h
        obtain ⟨-, hencode, hlength⟩ := encode_of_continueSequence hshape hsequence
        exact ⟨Char.ofNat v, rest, cs, hencode, by rwa [hlength, ← Nat.add_assoc], rfl⟩
  · rintro ⟨c, rest, cs, hencode, hcs, rfl⟩
    have hc : Char.ofNat c.toNat = c := Char.ofNat_toNat c
    by_cases hascii : c.toNat < 0x80
    · rw [← hc, utf8EncodeChar_one hascii] at hencode hcs
      cases hencode
      rw [if_pos (by rwa [toNat_byte (by omega)])]
      refine bind_eq_ok.mpr ⟨cs, hcs, ?_⟩
      rw [toNat_byte (by omega), hc]
      rfl
    · obtain ⟨b', bs', count, low, high, hbytes', hlow, hshape, hsequence⟩ :=
        continueSequence_of_encode (v := c.toNat) (by omega) c.valid position rest
      have hlength := (encode_of_continueSequence hshape hsequence).2.2
      rw [hc] at hbytes' hlength
      rw [hbytes'] at hencode
      cases hencode
      rw [if_neg (by omega), hshape]
      refine bind_eq_ok.mpr ⟨_, hsequence, bind_eq_ok.mpr ⟨cs, ?_, ?_⟩⟩
      · rwa [hlength, ← Nat.add_assoc] at hcs
      · rw [hc]
        rfl

/-- With enough steps, bytes are read as a text exactly if they are its encoding. -/
theorem decodeFrom_eq_ok_iff {fuel : Nat} (position : Nat) {bytes : List UInt8} {text : List Char}
    (hfuel : bytes.length ≤ fuel) :
    decodeFrom fuel position bytes = .ok text ↔ bytes = text.flatMap utf8EncodeChar := by
  have hnil {text : List Char} : [] = text.flatMap utf8EncodeChar ↔ text = [] := by
    cases text with
    | nil => simp
    | cons c cs => simp [List.flatMap_cons, String.utf8EncodeChar_ne_nil]
  induction fuel generalizing position bytes text with
  | zero =>
    obtain rfl := List.eq_nil_of_length_eq_zero (Nat.le_zero.mp hfuel)
    rw [hnil, decodeFrom, Except.ok.injEq, eq_comm]
  | succ fuel ih =>
    by_cases hbytes : bytes = []
    · rw [hbytes, hnil, decodeFrom, Except.ok.injEq, eq_comm]
    · rw [decodeFrom_cons hbytes]
      -- Every character takes at least one byte, so one step less is enough for the rest.
      have hrest {c : Char} {rest : List UInt8} (h : bytes = utf8EncodeChar c ++ rest) :
          rest.length ≤ fuel := by
        have hpos := List.length_pos_iff.mpr (String.utf8EncodeChar_ne_nil (c := c))
        rw [h, List.length_append] at hfuel
        omega
      constructor
      · rintro ⟨c, rest, cs, hencode, hcs, rfl⟩
        rw [List.flatMap_cons, ← (ih _ (hrest hencode)).mp hcs, hencode]
      · intro hencode
        cases text with
        | nil => exact absurd hencode hbytes
        | cons c cs =>
          rw [List.flatMap_cons] at hencode
          exact ⟨c, _, cs, hencode, (ih _ (hrest hencode)).mpr rfl, rfl⟩

/-- Bytes are read as a text exactly if they are its encoding. -/
theorem decodeUtf8_eq_ok_iff (bytes : List UInt8) (text : List Char) :
    decodeUtf8 bytes = .ok text ↔ bytes = text.flatMap utf8EncodeChar :=
  decodeFrom_eq_ok_iff 0 (Nat.le_refl _)

end NodeLint.Text
