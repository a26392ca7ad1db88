import Mathlib
import OpenApiLint.Text.Utf8
/-!
# Decoding what was encoded

The encoder of `Text.Utf8` writes every character as the string type itself
stores it, so the bytes of a text are its encoding; and the lossy decoder reads
those bytes back to the same characters, whatever follows them.  Together:
decoding the bytes of a text gives the text.

The decoder is checked character by character against the four widths of
UTF-8.  What makes each case go through is a range fact about the code point:
the lead byte picks the right `leadShape`, and the first continuation byte
falls in the narrowed range that shape allows (`0xA0` after `0xE0`, `0x9F`
after `0xED`, and so on), because a character is never a surrogate and never
beyond `0x10FFFF`.

## Main statements

* `Text.encodeChar_eq_utf8EncodeChar` — one encoder.
* `Text.decodeChars_encodeChar_append` — one character decodes, whatever follows.
* `Text.decodeLossy_encodeUtf8` — a text decodes from its bytes.
* `Text.toList_data_toByteArray` — a text's bytes are its encoding.
* `Text.bytes_lt_iff` — texts compare as their bytes do.
-/

namespace OpenApiLint.Text

/-- Every character is below `0x110000`. -/
theorem toNat_lt_of_char (c : Char) : c.toNat < 0x110000 := by
  rcases c.valid with h | h <;> simp at * <;> omega

/-- The encoder writes a character as the string type stores it. -/
theorem encodeChar_eq_utf8EncodeChar (c : Char) : encodeChar c = String.utf8EncodeChar c := by
  have hv : c.toNat = c.val.toNat := rfl
  have hlt := toNat_lt_of_char c
  simp only [encodeChar, encodePoint, String.utf8EncodeChar, ← hv]
  -- the two encoders test the same ranges and write each byte as the same number
  split_ifs
  all_goals try omega
  all_goals simp only [List.cons.injEq, and_true]
  all_goals and_intros
  all_goals (show UInt8.ofNat _ = UInt8.ofNat _; congr 1; omega)

/-- The bytes of a text are its encoding. -/
theorem toList_data_toByteArray (s : String) : s.toByteArray.data.toList = encodeUtf8 s := by
  conv_lhs => rw [← String.ofList_toList (s := s)]
  rw [String.toByteArray_ofList, List.utf8Encode, List.toList_data_toByteArray, encodeUtf8,
    funext encodeChar_eq_utf8EncodeChar]

theorem encodeUtf8_append (s t : String) : encodeUtf8 (s ++ t) = encodeUtf8 s ++ encodeUtf8 t := by
  simp [encodeUtf8]

/-! ## Decoding one character -/

theorem decodeChars_of_ascii {b : UInt8} {rest : List UInt8} (hb : b.toNat < 0x80) :
    decodeChars (b :: rest) = Char.ofNat b.toNat :: decodeChars rest := by
  rw [decodeChars, if_pos hb]

/-- A lead byte whose continuation reads to a code point decodes to it. -/
theorem decodeChars_of_lead {b : UInt8} {rest after : List UInt8} {count lo hi n : Nat}
    (hb : ¬ b.toNat < 0x80) (hs : leadShape b = some (count, lo, hi))
    (hc : continuation count (b.toNat % (if count = 1 then 32 else if count = 2 then 16 else 8))
      lo hi rest = (some n, after)) :
    decodeChars (b :: rest) = Char.ofNat n :: decodeChars after := by
  rw [decodeChars, if_neg hb]
  simp only [hs, hc]
  -- the decoder matches on the continuation's result with its equation alongside
  split
  next _ _ _ m _ hm _ =>
    have hmn : m = n := by rw [hc] at hm; exact (Option.some.inj hm).symm
    rw [hmn]
  next _ _ _ _ hm _ =>
    rw [hc] at hm
    exact absurd hm (by simp)

theorem continuation_cons {count acc lo hi : Nat} {b : UInt8} {rest : List UInt8}
    (h : lo ≤ b.toNat ∧ b.toNat ≤ hi) :
    continuation (count + 1) acc lo hi (b :: rest) =
      continuation count (acc * 64 + (b.toNat - 0x80)) 0x80 0xBF rest := by
  simp [continuation, inRange, h]

/-- The lead byte of a two-byte form announces one continuation byte. -/
theorem leadShape_two {n : Nat} (h1 : 0x80 ≤ n) (h2 : n < 0x800) :
    leadShape (0xC0 + n / 64).toUInt8 = some (1, 0x80, 0xBF) := by
  simp only [leadShape, UInt8.toNat_ofNat_of_lt' (by omega : 0xC0 + n / 64 < 256)]
  split_ifs <;> simp_all <;> omega

/-- The lead byte of a three-byte form: after `0xE0` the next byte is at least
`0xA0` (no overlong form), after `0xED` at most `0x9F` (no surrogate). -/
theorem leadShape_three {n : Nat} (h1 : 0x800 ≤ n) (h2 : n < 0x10000) :
    leadShape (0xE0 + n / 4096).toUInt8 =
      some (2, if n < 0x1000 then 0xA0 else 0x80, if n / 4096 = 0xD then 0x9F else 0xBF) := by
  simp only [leadShape, UInt8.toNat_ofNat_of_lt' (by omega : 0xE0 + n / 4096 < 256)]
  split_ifs <;> simp_all <;> omega

/-- The lead byte of a four-byte form: after `0xF0` the next byte is at least
`0x90`, after `0xF4` at most `0x8F` (nothing past the last code point). -/
theorem leadShape_four {n : Nat} (h1 : 0x10000 ≤ n) (h2 : n < 0x110000) :
    leadShape (0xF0 + n / 262144).toUInt8 =
      some (3, if n < 0x40000 then 0x90 else 0x80, if n / 262144 = 4 then 0x8F else 0xBF) := by
  simp only [leadShape, UInt8.toNat_ofNat_of_lt' (by omega : 0xF0 + n / 262144 < 256)]
  split_ifs <;> simp_all <;> omega

/-- **A character decodes from its bytes**, whatever bytes follow. -/
theorem decodeChars_encodeChar_append (c : Char) (rest : List UInt8) :
    decodeChars (encodeChar c ++ rest) = c :: decodeChars rest := by
  have hlt := toNat_lt_of_char c
  have hsur : c.toNat < 0xD800 ∨ 0xDFFF < c.toNat := by
    rcases c.valid with h | h <;> simp at * <;> omega
  have hself : Char.ofNat c.toNat = c := Char.ofNat_toNat c
  have hbyte : ∀ m, m < 256 → (m.toUInt8).toNat = m := fun _ => UInt8.toNat_ofNat_of_lt'
  -- one case for each length of the form; each continuation byte is checked against its range
  simp only [encodeChar, encodePoint]
  split_ifs with h1 h2 h3
  · rw [List.singleton_append, decodeChars_of_ascii (by rw [hbyte _ (by omega)]; omega),
      hbyte _ (by omega), hself]
  · simp only [List.cons_append, List.nil_append]
    rw [decodeChars_of_lead (by rw [hbyte _ (by omega)]; omega) (leadShape_two (by omega) h2), hself]
    rw [if_pos rfl, hbyte _ (by omega), continuation_cons (by rw [hbyte _ (by omega)]; omega),
      hbyte _ (by omega)]
    simp only [continuation, Prod.mk.injEq, Option.some.injEq, and_true]
    omega
  · simp only [List.cons_append, List.nil_append]
    rw [decodeChars_of_lead (by rw [hbyte _ (by omega)]; omega) (leadShape_three (by omega) h3), hself]
    rw [if_neg (by omega), if_pos rfl, hbyte _ (by omega),
      continuation_cons (by rw [hbyte _ (by omega)]; split_ifs <;> omega),
      continuation_cons (by rw [hbyte _ (by omega)]; omega), hbyte _ (by omega), hbyte _ (by omega)]
    simp only [continuation, Prod.mk.injEq, Option.some.injEq, and_true]
    omega
  · simp only [List.cons_append, List.nil_append]
    rw [decodeChars_of_lead (by rw [hbyte _ (by omega)]; omega) (leadShape_four (by omega) hlt), hself]
    rw [if_neg (by omega), if_neg (by omega), hbyte _ (by omega),
      continuation_cons (by rw [hbyte _ (by omega)]; split_ifs <;> omega),
      continuation_cons (by rw [hbyte _ (by omega)]; omega),
      continuation_cons (by rw [hbyte _ (by omega)]; omega),
      hbyte _ (by omega), hbyte _ (by omega), hbyte _ (by omega)]
    simp only [continuation, Prod.mk.injEq, Option.some.injEq, and_true]
    omega

/-! ## Decoding a text -/

theorem decodeChars_flatMap_encodeChar (cs : List Char) :
    decodeChars (cs.flatMap encodeChar) = cs := by
  induction cs with
  | nil => simp [decodeChars]
  | cons c cs ih => rw [List.flatMap_cons, decodeChars_encodeChar_append, ih]

/-- **A text decodes from its bytes.** -/
theorem decodeLossy_encodeUtf8 (s : String) : decodeLossy (encodeUtf8 s) = s := by
  rw [decodeLossy, encodeUtf8, decodeChars_flatMap_encodeChar, String.ofList_toList]

/-! ## Byte order

UTF-8 keeps the order of code points: a lead byte says how long the form is,
longer forms have larger lead bytes, and within one length the bytes are the
code point's digits in base 64, most significant first.  No form is a prefix
of another, so texts compare byte by byte exactly as they compare character by
character. -/

/-- A smaller code point has smaller bytes, whatever follows either. -/
theorem encodePoint_append_lt {n m : Nat} (hnm : n < m) (hm : m < 0x110000) (x y : List UInt8) :
    encodePoint n ++ x < encodePoint m ++ y := by
  unfold encodePoint
  -- one case for each pair of lengths; the bytes are compared as numbers below 256
  split_ifs <;>
    simp only [List.cons_append, List.nil_append, List.cons_lt_cons_iff, UInt8.lt_iff_toNat_lt,
      UInt8.ext_iff, UInt8.toNat_ofNat', Nat.toUInt8] <;>
    simp (disch := omega) only [Nat.mod_eq_of_lt] <;>
    omega

theorem encodeChar_append_lt {a b : Char} (h : a < b) (x y : List UInt8) :
    encodeChar a ++ x < encodeChar b ++ y :=
  encodePoint_append_lt (by simpa [Char.lt_def, UInt32.lt_iff_toNat_lt] using h) (toNat_lt_of_char b) x y

theorem encodeChar_ne_nil (c : Char) : encodeChar c ≠ [] := by
  unfold encodeChar encodePoint
  split_ifs <;> simp

theorem append_lt_append_left_iff (l : List UInt8) {x y : List UInt8} : l ++ x < l ++ y ↔ x < y := by
  induction l with
  | nil => rfl
  | cons b l ih => rw [List.cons_append, List.cons_append, List.cons_lt_cons_self, ih]

theorem flatMap_encodeChar_lt_iff (l₁ l₂ : List Char) :
    l₁.flatMap encodeChar < l₂.flatMap encodeChar ↔ l₁ < l₂ := by
  induction l₁ generalizing l₂ with
  | nil =>
    cases l₂ with
    | nil => simp
    | cons b l₂ =>
      obtain ⟨d, ds, hd⟩ := List.exists_cons_of_ne_nil (encodeChar_ne_nil b)
      simp [hd]
  | cons a l₁ ih =>
    cases l₂ with
    | nil => simp
    | cons b l₂ =>
      simp only [List.flatMap_cons]
      rcases lt_trichotomy a b with h | rfl | h
      · exact iff_of_true (encodeChar_append_lt h _ _) (List.cons_lt_cons_iff.2 (.inl h))
      · rw [append_lt_append_left_iff, List.cons_lt_cons_self, ih]
      · exact iff_of_false (List.lt_asymm (encodeChar_append_lt h _ _))
          (List.lt_asymm (List.cons_lt_cons_iff.2 (.inl h)))

/-- **Texts compare as their bytes do.** -/
theorem bytes_lt_iff (s t : String) :
    s.toByteArray.data.toList < t.toByteArray.data.toList ↔ s < t := by
  rw [toList_data_toByteArray, toList_data_toByteArray, encodeUtf8, encodeUtf8]
  exact flatMap_encodeChar_lt_iff s.toList t.toList

theorem bytes_le_iff (s t : String) :
    s.toByteArray.data.toList ≤ t.toByteArray.data.toList ↔ s ≤ t := by
  rw [← List.not_lt, bytes_lt_iff, not_lt]

end OpenApiLint.Text
