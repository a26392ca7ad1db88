import Mathlib
import OpenApiLint.Json.Decoder
import OpenApiLint.Value.Print
import OpenApiLint.Proofs.Utf8
/-!
# Reading JSON tokens, step by step

A reader runs over the bytes of a text from a cursor; `runAt` gives what it
returns and where it leaves the cursor, and `ahead` the bytes it still has to
read.  Everything here is stated through these two: each primitive and each
token reader gets an equation saying what it does when the bytes ahead start
with a given token, so that later proofs cite the equation and never open the
reader.

The tokens are the ones compact data text is made of: literals, strings as
`quoteData` writes them, natural numbers in decimal, and fractions after a
point.  What may stand after
a value in compact text is a comma, a closing bracket or brace, or nothing
(`Closes`); a number needs that, since its reader looks one byte past it.

Loops read with fuel, and the fuel they are given is the number of bytes left
plus two.  The string loop is shown to finish within as many steps as the
string has bytes, so that fuel is always enough.

## Main statements

* `runAt_bind`, `runAt_tryCatch` — running a composite reader.
* `runAt_parseIdent` — a literal.
* `runAt_parseStr` — a quoted string reads back to its text.
* `runAt_parseNumber_nat` — a natural number reads back from its digits.
* `runAt_parseDecimal` — a fraction reads as its digits over a power of ten.
-/

namespace OpenApiLint.Json

/-! ## Running a reader -/

/-- What a reader does over a text from a cursor: its outcome, and the cursor it leaves. -/
def runAt {α : Type} (x : Reader α) (B : ByteArray) (c : Cursor) : Except Error α × Cursor :=
  ((x.run B).run).run c

/-- The bytes from the cursor on. -/
def ahead (B : ByteArray) (c : Cursor) : List UInt8 := B.data.toList.drop c.index

/-- The cursor moved `n` bytes on. -/
def Cursor.skip (c : Cursor) (n : Nat) : Cursor := { c with index := c.index + n }

variable {α β : Type} {B : ByteArray} {c : Cursor}

@[simp] theorem runAt_pure (a : α) : runAt (pure a) B c = (.ok a, c) := rfl

theorem runAt_bind (x : Reader α) (f : α → Reader β) :
    runAt (x >>= f) B c = match runAt x B c with
      | (.ok a, c') => runAt (f a) B c'
      | (.error e, c') => (.error e, c') := by
  simp only [runAt, bind, ReaderT.run, ReaderT.bind, ExceptT.run, ExceptT.bind, ExceptT.bindCont,
    ExceptT.mk, StateT.run, StateT.bind]
  rcases x B c with ⟨_ | _, _⟩ <;> rfl

theorem runAt_bind_ok {x : Reader α} {f : α → Reader β} {a : α} {c' : Cursor}
    (h : runAt x B c = (.ok a, c')) : runAt (x >>= f) B c = runAt (f a) B c' := by
  rw [runAt_bind, h]

theorem runAt_map (f : α → β) (x : Reader α) :
    runAt (f <$> x) B c = match runAt x B c with
      | (.ok a, c') => (.ok (f a), c')
      | (.error e, c') => (.error e, c') := by
  rw [← bind_pure_comp, runAt_bind]
  rcases runAt x B c with ⟨_ | _, _⟩ <;> rfl

@[simp] theorem runAt_throw (e : Error) : runAt (throw e : Reader α) B c = (.error e, c) := rfl
@[simp] theorem runAt_get : runAt (get : Reader Cursor) B c = (.ok c, c) := rfl
@[simp] theorem runAt_set (c' : Cursor) : runAt (set c' : Reader PUnit) B c = (.ok ⟨⟩, c') := rfl
@[simp] theorem runAt_modify (f : Cursor → Cursor) :
    runAt (modify f : Reader PUnit) B c = (.ok ⟨⟩, f c) := rfl
@[simp] theorem runAt_read : runAt (read : Reader ByteArray) B c = (.ok B, c) := rfl

theorem runAt_tryCatch (x : Reader α) (h : Error → Reader α) :
    runAt (tryCatch x h) B c = match runAt x B c with
      | (.ok a, c') => (.ok a, c')
      | (.error e, c') => runAt (h e) B c' := by
  change (ExceptT.tryCatch (x B) (fun e => h e B)).run.run c = _
  simp only [runAt, ExceptT.tryCatch, ExceptT.mk, ExceptT.run, StateT.run, bind, StateT.bind,
    ReaderT.run]
  rcases x B c with ⟨_ | _, _⟩ <;> rfl

/-! ## The cursor -/

theorem getElem?_eq_head?_ahead : B[c.index]? = (ahead B c).head? := by
  rw [ahead, List.head?_drop, Array.getElem?_toList]
  have hs : B.size = B.data.size := rfl
  by_cases h : c.index < B.size
  · rw [getElem?_pos B _ h, Array.getElem?_eq_getElem (hs ▸ h), ByteArray.getElem_eq_getElem_data]
  · rw [getElem?_neg B _ h, Array.getElem?_eq_none (by omega)]

@[simp] theorem runAt_peek : runAt peek B c = (.ok (ahead B c).head?, c) := by
  simp [peek, runAt_bind, runAt_map, getElem?_eq_head?_ahead]

@[simp] theorem runAt_eat : runAt eat B c = (.ok (), c.skip 1) := rfl

@[simp] theorem runAt_peekOrNull : runAt peekOrNull B c = (.ok ((ahead B c).head?.getD 0), c) := by
  simp [peekOrNull, runAt_map]

theorem runAt_next_of_cons {b : UInt8} {rest : List UInt8} (h : ahead B c = b :: rest) :
    runAt next B c = (.ok (some b), c.skip 1) := by
  simp [next, runAt_bind, runAt_map, h]

@[simp] theorem runAt_fuel : runAt fuel B c = (.ok ((ahead B c).length + 2), c) := by
  simp [fuel, index, runAt_bind, runAt_map, ahead, ByteArray.size_data]

@[simp] theorem ahead_skip (n : Nat) : ahead B (c.skip n) = (ahead B c).drop n := by
  simp [ahead, Cursor.skip, List.drop_drop, Nat.add_comm]


@[simp] theorem skip_skip (m n : Nat) : (c.skip m).skip n = c.skip (m + n) := by
  simp [Cursor.skip, Nat.add_assoc]

/-! ## White space and literals -/

/-- A byte that white space does not skip. -/
def NotBlank (b : UInt8) : Prop := b ≠ 32 ∧ b ≠ 10 ∧ b ≠ 9 ∧ b ≠ 13

theorem runAt_parseWhitespace {b : UInt8} {rest : List UInt8} (h : ahead B c = b :: rest)
    (hb : NotBlank b) : runAt parseWhitespace B c = (.ok (some b), c) := by
  obtain ⟨h1, h2, h3, h4⟩ := hb
  simp [parseWhitespace, skipSpace, runAt_bind, h, h1, h2, h3, h4]

theorem runAt_parseWhitespace_nil (h : ahead B c = []) : runAt parseWhitespace B c = (.ok none, c) := by
  simp [parseWhitespace, skipSpace, runAt_bind, h]

theorem runAt_parseIdent (l : List UInt8) {rest : List UInt8} (h : ahead B c = l ++ rest) :
    runAt (parseIdent l) B c = (.ok (), c.skip l.length) := by
  induction l generalizing c with
  | nil => simp [parseIdent, Cursor.skip]
  | cons b l ih =>
    rw [List.cons_append] at h
    have hl : ahead B (c.skip 1) = l ++ rest := by simp [h]
    simp [parseIdent, runAt_bind_ok (runAt_next_of_cons h), ih hl, skip_skip, Nat.add_comm]

/-! ## Strings -/

/-- The bytes a character takes inside a quoted string. -/
def quotedBytes (ch : Char) : List UInt8 := (escapeDataChar ch).flatMap Text.encodeChar

theorem encodeUtf8_quoteData (s : String) :
    Text.encodeUtf8 (quoteData s) = 34 :: s.toList.flatMap quotedBytes ++ [34] := by
  have hq : Text.encodeChar '"' = [34] := by decide
  simp only [quoteData, Text.encodeUtf8, String.toList_ofList, List.flatMap_cons, List.flatMap_append,
    List.flatMap_assoc, hq, List.flatMap_nil, List.append_nil, List.cons_append, List.nil_append]
  rfl

/-- Bytes that a string holds as they stand. -/
theorem runAt_parseStrBytes_plain (bs : List UInt8) {more : List UInt8}
    (hplain : ∀ b ∈ bs, b.toNat ≠ 34 ∧ b.toNat ≠ 92 ∧ 32 ≤ b.toNat) (h : ahead B c = bs ++ more) (n : Nat)
    (acc : Array UInt8) :
    runAt (parseStrBytes (n + bs.length) acc) B c =
      runAt (parseStrBytes n (acc ++ bs.toArray)) B (c.skip bs.length) := by
  induction bs generalizing acc c with
  | nil => simp [Cursor.skip]
  | cons b bs ih =>
    obtain ⟨h34, h92, h32⟩ := hplain b (by simp)
    replace h34 : b ≠ 34 := fun hb => h34 (by rw [hb]; rfl)
    replace h92 : b ≠ 92 := fun hb => h92 (by rw [hb]; rfl)
    rw [List.cons_append] at h
    have hl : ahead B (c.skip 1) = bs ++ more := by simp [h]
    have h32' : ¬ b < 32 := by rw [UInt8.lt_iff_toNat_lt]; simpa using h32
    rw [List.length_cons, ← Nat.add_assoc, parseStrBytes]
    simp [runAt_bind, h, h34, h92, h32', ih (fun x hx => hplain x (by simp [hx])) hl, skip_skip,
      Nat.add_comm]

theorem getElem?_add (k : Nat) : B[c.index + k]? = (ahead B c)[k]? := by
  have := getElem?_eq_head?_ahead (B := B) (c := c.skip k)
  simp only [Cursor.skip, ahead, List.head?_drop] at this ⊢
  rw [this, List.getElem?_drop]

/-- A hex escape's four digits. -/
theorem runAt_decodeHexEscape {d₀ d₁ d₂ d₃ : UInt8} {v₀ v₁ v₂ v₃ : Nat} {more : List UInt8}
    (h : ahead B c = d₀ :: d₁ :: d₂ :: d₃ :: more) (h₀ : hexValue d₀ = some v₀)
    (h₁ : hexValue d₁ = some v₁) (h₂ : hexValue d₂ = some v₂) (h₃ : hexValue d₃ = some v₃) :
    runAt decodeHexEscape B c = (.ok (((v₀ * 16 + v₁) * 16 + v₂) * 16 + v₃), c.skip 4) := by
  have hsize : c.index + 4 ≤ B.size := by
    have := congrArg List.length h
    simp [ahead, ByteArray.size_data] at this
    omega
  simp [decodeHexEscape, index, runAt_bind, runAt_map, hsize, List.range_succ, getElem?_add,
    getElem?_eq_head?_ahead, h, h₀, h₁, h₂, h₃, Cursor.skip]

/-- An escape that stands for one byte. -/
theorem parseStrBytes_escape {e more out : List UInt8} (h : ahead B c = 92 :: e ++ more)
    (he : runAt parseEscape B (c.skip 1) = (.ok out, c.skip (1 + e.length))) (n : Nat)
    (acc : Array UInt8) :
    runAt (parseStrBytes (n + 1) acc) B c =
      runAt (parseStrBytes n (acc ++ out.toArray)) B (c.skip (1 + e.length)) := by
  rw [parseStrBytes]
  simp [runAt_bind, h, runAt_bind_ok he]

theorem hexDigit_byte {k : Nat} (hk : k < 16) :
    ∃ b, Text.encodeChar (hexDigit k) = [b] ∧ hexValue b = some k := by
  interval_cases k <;> exact ⟨_, rfl, rfl⟩

theorem escapeDataChar_of_ne {ch : Char} (h₁ : ch ≠ '"') (h₂ : ch ≠ '\\') (h₃ : ch ≠ '\n')
    (h₄ : ch ≠ '\r') (h₅ : ch ≠ '\t') :
    escapeDataChar ch =
      if ch.toNat = 8 then ['\\', 'b'] else if ch.toNat = 12 then ['\\', 'f']
      else if ch.toNat < 0x20 then
        ['\\', 'u', '0', '0', hexDigit (ch.toNat / 16), hexDigit (ch.toNat % 16)]
      else [ch] := by
  unfold escapeDataChar
  split <;> simp_all

/-- The bytes of a character written as it stands: none is a quote, a backslash or a control byte. -/
theorem plain_encodeChar {ch : Char} (h₁ : ch ≠ '"') (h₂ : ch ≠ '\\') (h₃ : 0x20 ≤ ch.toNat) :
    ∀ b ∈ Text.encodeChar ch, b.toNat ≠ 34 ∧ b.toNat ≠ 92 ∧ 32 ≤ b.toNat := by
  have hq : ch.toNat ≠ 34 := fun h => h₁ (by rw [← Char.ofNat_toNat ch, h])
  have hb : ch.toNat ≠ 92 := fun h => h₂ (by rw [← Char.ofNat_toNat ch, h])
  have hlt := Text.toNat_lt_of_char ch
  simp only [Text.encodeChar, Text.encodePoint]
  split_ifs <;> simp only [List.mem_cons, List.not_mem_nil, or_false] <;> intro b hb' <;>
    rcases hb' with rfl | rfl | rfl | rfl <;> simp <;> omega

theorem runAt_parseEscape_unicode {bh bl : UInt8} {a b : Nat} {more : List UInt8}
    (h : ahead B c = 117 :: 48 :: 48 :: bh :: bl :: more) (ha : hexValue bh = some a)
    (hb : hexValue bl = some b) (hn : a * 16 + b < 0x80) :
    runAt parseEscape B c = (.ok (Text.encodePoint (a * 16 + b)), c.skip 5) := by
  have h' : ahead B (c.skip 1) = 48 :: 48 :: bh :: bl :: more := by simp [h]
  have hz : hexValue 48 = some 0 := rfl
  simp only [parseEscape, runAt_bind, runAt_next_of_cons h]
  simp [parseUnicodeEscape, runAt_bind, runAt_decodeHexEscape h' hz hz ha hb, skip_skip]
  rw [if_neg (by omega), if_pos (by omega), runAt_pure]

/-- The string loop over an escape that stands for a character's bytes. -/
theorem parseStrBytes_escaped {ch : Char} {e more : List UInt8} (hq : quotedBytes ch = 92 :: e)
    (he : ∀ c' : Cursor, ahead B c' = e ++ more →
      runAt parseEscape B c' = (.ok (Text.encodeChar ch), c'.skip e.length))
    (h : ahead B c = quotedBytes ch ++ more) :
    ∃ k ≤ (quotedBytes ch).length, ∀ n acc,
      runAt (parseStrBytes (n + k) acc) B c =
        runAt (parseStrBytes n (acc ++ (Text.encodeChar ch).toArray)) B
          (c.skip (quotedBytes ch).length) := by
  rw [hq] at h ⊢
  refine ⟨1, by simp, fun n acc => ?_⟩
  have h1 : ahead B (c.skip 1) = e ++ more := by simp [h]
  rw [List.length_cons, Nat.add_comm e.length]
  exact parseStrBytes_escape h (by rw [he _ h1, skip_skip]) n acc

/-- **The string loop reads a character back from its quoted form**, in at most
as many steps as the form has bytes. -/
theorem parseStrBytes_char (ch : Char) {more : List UInt8} (h : ahead B c = quotedBytes ch ++ more) :
    ∃ k ≤ (quotedBytes ch).length, ∀ n acc,
      runAt (parseStrBytes (n + k) acc) B c =
        runAt (parseStrBytes n (acc ++ (Text.encodeChar ch).toArray)) B
          (c.skip (quotedBytes ch).length) := by
  -- the five characters with a short escape of their own
  by_cases h₁ : ch = '"'
  · subst h₁
    refine parseStrBytes_escaped (e := [34]) (by decide) (fun c' h' => ?_) h
    simp [parseEscape, runAt_bind, runAt_next_of_cons h', show Text.encodeChar '"' = [34] by decide]
  by_cases h₂ : ch = '\\'
  · subst h₂
    refine parseStrBytes_escaped (e := [92]) (by decide) (fun c' h' => ?_) h
    simp [parseEscape, runAt_bind, runAt_next_of_cons h', show Text.encodeChar '\\' = [92] by decide]
  by_cases h₃ : ch = '\n'
  · subst h₃
    refine parseStrBytes_escaped (e := [110]) (by decide) (fun c' h' => ?_) h
    simp [parseEscape, runAt_bind, runAt_next_of_cons h', show Text.encodeChar '\n' = [10] by decide]
  by_cases h₄ : ch = '\r'
  · subst h₄
    refine parseStrBytes_escaped (e := [114]) (by decide) (fun c' h' => ?_) h
    simp [parseEscape, runAt_bind, runAt_next_of_cons h', show Text.encodeChar '\r' = [13] by decide]
  by_cases h₅ : ch = '\t'
  · subst h₅
    refine parseStrBytes_escaped (e := [116]) (by decide) (fun c' h' => ?_) h
    simp [parseEscape, runAt_bind, runAt_next_of_cons h', show Text.encodeChar '\t' = [9] by decide]
  have hesc := escapeDataChar_of_ne h₁ h₂ h₃ h₄ h₅
  have hlt := Text.toNat_lt_of_char ch
  by_cases h8 : ch.toNat = 8
  · have hq : quotedBytes ch = [92, 98] := by rw [quotedBytes, hesc, if_pos h8]; decide
    refine parseStrBytes_escaped (e := [98]) hq (fun c' h' => ?_) h
    simp [parseEscape, runAt_bind, runAt_next_of_cons h', Text.encodeChar, Text.encodePoint, h8]
  by_cases h12 : ch.toNat = 12
  · have hq : quotedBytes ch = [92, 102] := by rw [quotedBytes, hesc, if_neg h8, if_pos h12]; decide
    refine parseStrBytes_escaped (e := [102]) hq (fun c' h' => ?_) h
    simp [parseEscape, runAt_bind, runAt_next_of_cons h', Text.encodeChar, Text.encodePoint, h12]
  by_cases hc : ch.toNat < 0x20
  · -- another control character: `\u00` and two hex digits
    obtain ⟨bh, hbh, hvh⟩ := hexDigit_byte (k := ch.toNat / 16) (by omega)
    obtain ⟨bl, hbl, hvl⟩ := hexDigit_byte (k := ch.toNat % 16) (by omega)
    have hq : quotedBytes ch = [92, 117, 48, 48, bh, bl] := by
      rw [quotedBytes, hesc, if_neg h8, if_neg h12, if_pos hc]
      simp [hbh, hbl]
      rfl
    refine parseStrBytes_escaped (e := [117, 48, 48, bh, bl]) hq (fun c' h' => ?_) h
    rw [runAt_parseEscape_unicode h' hvh hvl (by omega), Text.encodeChar]
    congr 3
    omega
  · -- written as it stands
    have hq : quotedBytes ch = Text.encodeChar ch := by
      rw [quotedBytes, hesc, if_neg h8, if_neg h12, if_neg hc]
      simp
    rw [hq] at h ⊢
    exact ⟨_, le_refl _, fun n acc =>
      runAt_parseStrBytes_plain _ (plain_encodeChar h₁ h₂ (by omega)) h n acc⟩

/-- The closing quote ends a string. -/
theorem parseStrBytes_close {rest : List UInt8} (h : ahead B c = 34 :: rest) (n : Nat)
    (acc : Array UInt8) : runAt (parseStrBytes (n + 1) acc) B c = (.ok acc, c.skip 1) := by
  rw [parseStrBytes]
  simp [runAt_bind, runAt_map, h]

theorem parseStrBytes_chars (cs : List Char) {more : List UInt8}
    (h : ahead B c = cs.flatMap quotedBytes ++ more) :
    ∃ k ≤ (cs.flatMap quotedBytes).length, ∀ n acc,
      runAt (parseStrBytes (n + k) acc) B c =
        runAt (parseStrBytes n (acc ++ (cs.flatMap Text.encodeChar).toArray)) B
          (c.skip (cs.flatMap quotedBytes).length) := by
  induction cs generalizing c with
  | nil => exact ⟨0, le_refl _, fun n acc => by simp [Cursor.skip]⟩
  | cons ch cs ih =>
    rw [List.flatMap_cons, List.append_assoc] at h
    obtain ⟨k₁, hk₁, h₁⟩ := parseStrBytes_char ch h
    obtain ⟨k₂, hk₂, h₂⟩ := ih (c := c.skip (quotedBytes ch).length) (by simp [h])
    refine ⟨k₂ + k₁, by simp only [List.flatMap_cons, List.length_append]; omega, fun n acc => ?_⟩
    rw [← Nat.add_assoc, h₁, h₂, skip_skip]
    simp only [List.flatMap_cons, List.length_append, Array.append_assoc, List.append_toArray]

/-- **A quoted string reads back**: after the opening quote, the reader returns
the text and stops after the closing quote. -/
theorem runAt_parseStr (s : String) {rest : List UInt8}
    (h : ahead B c = s.toList.flatMap quotedBytes ++ 34 :: rest) :
    runAt parseStr B c = (.ok s, c.skip ((s.toList.flatMap quotedBytes).length + 1)) := by
  obtain ⟨k, hk, hrun⟩ := parseStrBytes_chars s.toList h
  have hfuel : (ahead B c).length + 2 =
      (rest.length + 2 + ((s.toList.flatMap quotedBytes).length - k) + 1) + k := by
    rw [h, List.length_append, List.length_cons]
    omega
  have hend : ahead B (c.skip (s.toList.flatMap quotedBytes).length) = 34 :: rest := by simp [h]
  simp only [parseStr, runAt_bind, runAt_fuel, hfuel, hrun, parseStrBytes_close hend, skip_skip]
  rw [Array.empty_append, List.toList_toArray]
  exact congrArg (·, _) (congrArg Except.ok (Text.decodeLossy_encodeUtf8 s))

/-! ## Numbers -/

/-- The byte of a decimal digit. -/
theorem encodeChar_of_isDigit {ch : Char} (h : ch.isDigit) :
    Text.encodeChar ch = [ch.toNat.toUInt8] ∧ isDigit ch.toNat.toUInt8 = true ∧
      (ch.toNat.toUInt8).toNat = ch.toNat := by
  have hr : 48 ≤ ch.toNat ∧ ch.toNat ≤ 57 := by
    simp [Char.isDigit] at h
    exact ⟨h.1, h.2⟩
  refine ⟨by simp [Text.encodeChar, Text.encodePoint]; omega, ?_, by simp; omega⟩
  simp [isDigit, UInt8.le_iff_toNat_le]
  omega

theorem le_ofDigitChars (cs : List Char) (s : Nat) : s ≤ Nat.ofDigitChars 10 cs s := by
  rw [Nat.ofDigitChars_eq_ofDigitChars_zero]
  have h10 : 1 ≤ 10 ^ cs.length := Nat.one_le_pow _ _ (by omega)
  nlinarith

/-- The first digit of a run ahead: one byte, a digit with the character's
value, and the rest of the run after it. -/
theorem ahead_digit {ch : Char} {cs : List Char} (hd : ch.isDigit) {rest : List UInt8}
    (h : ahead B c = (ch :: cs).flatMap Text.encodeChar ++ rest) :
    ahead B c = ch.toNat.toUInt8 :: (cs.flatMap Text.encodeChar ++ rest) ∧
      isDigit ch.toNat.toUInt8 = true ∧ ch.toNat.toUInt8.toNat = ch.toNat ∧
      ahead B (c.skip 1) = cs.flatMap Text.encodeChar ++ rest := by
  obtain ⟨hb, hdig, hval⟩ := encodeChar_of_isDigit hd
  rw [List.flatMap_cons, hb, List.singleton_append, List.cons_append] at h
  exact ⟨h, hdig, hval, by simp [h]⟩

/-- A run of digits whose number stays within 64 bits does so from its first
digit on. -/
theorem ofDigitChars_cons_le {ch : Char} {cs : List Char} {s : Nat}
    (hmax : Nat.ofDigitChars 10 (ch :: cs) s ≤ u64Max) :
    Nat.ofDigitChars 10 cs (s * 10 + (ch.toNat - 48)) ≤ u64Max ∧
      s * 10 + (ch.toNat - 48) ≤ u64Max := by
  rw [Nat.ofDigitChars_cons, Nat.mul_comm] at hmax
  exact ⟨hmax, le_trans (le_ofDigitChars cs _) hmax⟩

/-- The digit loop reads a run of digits to the number they spell. -/
theorem runAt_parseNumber_digits (positive : Bool) (cs : List Char) (hd : ∀ ch ∈ cs, ch.isDigit)
    {rest : List UInt8} (h : ahead B c = cs.flatMap Text.encodeChar ++ rest)
    (hr : isDigit (rest.head?.getD 0) = false) (n s : Nat)
    (hmax : Nat.ofDigitChars 10 cs s ≤ u64Max) :
    runAt (parseNumber.digits positive (n + cs.length) s) B c =
      runAt (parseNumberTail positive (Nat.ofDigitChars 10 cs s)) B (c.skip cs.length) := by
  induction cs generalizing s c with
  | nil =>
    cases n with
    | zero => simp [parseNumber.digits, Cursor.skip]
    | succ n =>
      simp only [List.flatMap_nil, List.nil_append] at h
      simp [parseNumber.digits, runAt_bind, h, hr, Cursor.skip]
  | cons ch cs ih =>
    obtain ⟨h, hdig, hval, hnext⟩ := ahead_digit (hd ch (by simp)) h
    obtain ⟨hmax', hstep⟩ := ofDigitChars_cons_le hmax
    rw [List.length_cons, ← Nat.add_assoc, parseNumber.digits]
    simp only [runAt_bind, runAt_peekOrNull, h, List.head?_cons, Option.getD_some, hdig, if_true,
      hval, gt_iff_lt, Nat.not_lt.mpr hstep, if_false, runAt_eat]
    rw [ih (fun x hx => hd x (by simp [hx])) hnext _ hmax', Nat.ofDigitChars_cons, skip_skip,
      Nat.mul_comm, Nat.add_comm 1]
    rfl

/-- What may follow a data value in compact text: a comma, a closing bracket or
brace, or nothing. -/
def Closes (rest : List UInt8) : Prop := ∀ b ∈ rest.head?, b = 44 ∨ b = 93 ∨ b = 125

/-- After a number, compact text holds nothing that could continue it. -/
theorem Closes.ends_number {rest : List UInt8} (h : Closes rest) :
    isDigit (rest.head?.getD 0) = false ∧ rest.head?.getD 0 ≠ 46 ∧
      rest.head?.getD 0 ≠ 101 ∧ rest.head?.getD 0 ≠ 69 := by
  cases rest with
  | nil => decide
  | cons b rest =>
    rcases h b rfl with rfl | rfl | rfl <;> simp only [List.head?_cons, Option.getD_some] <;> decide

theorem runAt_parseNumberTail (h : Closes (ahead B c)) (positive : Bool) (s : Nat) :
    runAt (parseNumberTail positive s) B c =
      (.ok (if positive then .unsigned s else if s = 0 then .float OpenApiLint.Number.Binary64.zero.neg
        else if s ≤ Nat.pow 2 63 then .signed (-(s : Int))
        else .float (OpenApiLint.Number.Binary64.ofNat s).neg), c) := by
  obtain ⟨-, h46, h101, h69⟩ := h.ends_number
  rw [parseNumberTail, runAt_bind, runAt_peekOrNull]
  dsimp only
  rw [if_neg h46, if_neg (by simp [h101, h69])]
  split_ifs <;> rfl

theorem eq_zero_of_toDigits_eq_cons {m : Nat} {ds : List Char} (h : Nat.toDigits 10 m = '0' :: ds) :
    m = 0 := by
  induction m using Nat.strong_induction_on generalizing ds with
  | _ m ih =>
    rw [Nat.toDigits_eq_if (by omega)] at h
    split at h
    · next hm =>
      have hd : Nat.digitChar m = '0' := (List.cons.inj h).1
      interval_cases m <;> simp_all [Nat.digitChar]
    · next hm =>
      obtain ⟨d, ds', hds'⟩ := List.exists_cons_of_ne_nil (Nat.toDigits_ne_nil (b := 10) (n := m / 10))
      rw [hds', List.cons_append] at h
      have := ih (m / 10) (by omega) (hds'.trans (by rw [(List.cons.inj h).1]))
      omega

theorem length_flatMap_encodeChar_of_isDigit {cs : List Char} (hd : ∀ ch ∈ cs, ch.isDigit) :
    (cs.flatMap Text.encodeChar).length = cs.length := by
  induction cs with
  | nil => rfl
  | cons ch cs ih =>
    rw [List.flatMap_cons, List.length_append, (encodeChar_of_isDigit (hd ch (by simp))).1,
      ih (fun x hx => hd x (by simp [hx]))]
    simp [Nat.add_comm]

theorem encodeUtf8_toString (m : Nat) :
    Text.encodeUtf8 (toString m) = (Nat.toDigits 10 m).flatMap Text.encodeChar := by
  simp [Text.encodeUtf8]

/-- **A natural number reads back from its decimal digits**, up to the sign
decision that the token's end makes. -/
theorem runAt_parseNumber_nat (positive : Bool) {m : Nat} (hm : m ≤ u64Max) {rest : List UInt8}
    (h : ahead B c = Text.encodeUtf8 (toString m) ++ rest) (hr : isDigit (rest.head?.getD 0) = false) :
    runAt (parseNumber positive) B c =
      runAt (parseNumberTail positive m) B (c.skip (Text.encodeUtf8 (toString m)).length) := by
  have hdig : ∀ ch ∈ Nat.toDigits 10 m, ch.isDigit := fun ch hc =>
    Nat.isDigit_of_mem_toDigits (by omega) (by omega) hc
  rw [encodeUtf8_toString] at h ⊢
  obtain ⟨d, ds, hds⟩ := List.exists_cons_of_ne_nil (Nat.toDigits_ne_nil (b := 10) (n := m))
  rw [hds] at h hdig ⊢
  have hb := (encodeChar_of_isDigit (hdig d (by simp))).1
  obtain ⟨h, hisd, hval, hnext⟩ := ahead_digit (hdig d (by simp)) h
  have hsum : Nat.ofDigitChars 10 (d :: ds) 0 = m := by rw [← hds]; exact Nat.ofDigitChars_ten_toDigits
  by_cases hz : d = '0'
  · -- a lone zero: nothing may follow it
    subst hz
    have hm0 := eq_zero_of_toDigits_eq_cons hds
    subst hm0
    obtain rfl : ds = [] := by simpa using hds
    have hend : ahead B (c.skip 1) = rest := by simpa using hnext
    rw [parseNumber, runAt_bind, runAt_next_of_cons h]
    dsimp only
    rw [if_pos (by decide), runAt_bind, runAt_peekOrNull, hend]
    dsimp only
    rw [if_neg (by simp [hr])]
    rfl
  · have h48 : d.toNat.toUInt8 ≠ 48 := fun he => hz (by
      rw [← Char.ofNat_toNat d, ← hval, he]; rfl)
    have hlen := @length_flatMap_encodeChar_of_isDigit ds (fun x hx => hdig x (by simp [hx]))
    have htail : Nat.ofDigitChars 10 ds (d.toNat.toUInt8.toNat - 48) = m := by
      rw [hval, ← hsum, Nat.ofDigitChars_cons, Nat.mul_zero, Nat.zero_add]
      rfl
    have hmax : Nat.ofDigitChars 10 ds (d.toNat.toUInt8.toNat - 48) ≤ u64Max := htail ▸ hm
    rw [parseNumber, runAt_bind, runAt_next_of_cons h]
    dsimp only
    rw [if_neg h48, if_pos hisd, runAt_bind, runAt_fuel, hnext]
    dsimp only
    rw [show (ds.flatMap Text.encodeChar ++ rest).length + 2 = rest.length + 2 + ds.length by
      rw [List.length_append, hlen]; omega]
    rw [runAt_parseNumber_digits positive ds (fun x hx => hdig x (by simp [hx])) hnext hr
      _ _ hmax, htail, skip_skip, List.flatMap_cons, hb, List.length_append, hlen]
    rfl

/-- The fraction loop reads a run of digits into the significand, moving the
exponent one place down per digit. -/
theorem runAt_parseDecimal_digits (cs : List Char) (hd : ∀ ch ∈ cs, ch.isDigit)
    {rest : List UInt8} (h : ahead B c = cs.flatMap Text.encodeChar ++ rest)
    (hr : isDigit (rest.head?.getD 0) = false) (n s : Nat) (e : Int)
    (hmax : Nat.ofDigitChars 10 cs s ≤ u64Max) :
    runAt (parseDecimal.digits (n + cs.length) s e) B c =
      (.ok (.inl (Nat.ofDigitChars 10 cs s, e - cs.length)), c.skip cs.length) := by
  induction cs generalizing s e c with
  | nil =>
    cases n with
    | zero => simp [parseDecimal.digits, Cursor.skip]
    | succ n =>
      simp only [List.flatMap_nil, List.nil_append] at h
      simp [parseDecimal.digits, runAt_bind, h, hr, Cursor.skip]
  | cons ch cs ih =>
    obtain ⟨h, hdig, hval, hnext⟩ := ahead_digit (hd ch (by simp)) h
    obtain ⟨hmax', hstep⟩ := ofDigitChars_cons_le hmax
    rw [List.length_cons, ← Nat.add_assoc, parseDecimal.digits]
    simp only [runAt_bind, runAt_peekOrNull, h, List.head?_cons, Option.getD_some, hdig, if_true,
      hval, gt_iff_lt, Nat.not_lt.mpr hstep, if_false, runAt_eat]
    rw [ih (fun x hx => hd x (by simp [hx])) hnext _ _ hmax', Nat.ofDigitChars_cons, skip_skip,
      Nat.mul_comm, Nat.add_comm 1]
    have h0 : '0'.toNat = 48 := rfl
    rw [h0, Nat.cast_succ, sub_add_eq_sub_sub_swap]

/-- **A fraction reads back**: from the point, digits that keep the significand
within 64 bits and end the number give the significand over the power of ten
they stand for, rounded once. -/
theorem runAt_parseDecimal (positive : Bool) (cs : List Char) (hd : ∀ ch ∈ cs, ch.isDigit)
    (hne : cs ≠ []) (hlen : cs.length ≤ 308) {rest : List UInt8}
    (h : ahead B c = 46 :: (cs.flatMap Text.encodeChar ++ rest)) (hr : Closes rest) (s : Nat)
    (hmax : Nat.ofDigitChars 10 cs s ≤ u64Max) :
    runAt (parseNumberTail positive s) B c =
      (.ok (.float (((Number.Binary64.ofNat (Nat.ofDigitChars 10 cs s)).div
        (pow10 cs.length)).withSign !positive)), c.skip (1 + cs.length)) := by
  obtain ⟨hnd, -, h101, h69⟩ := hr.ends_number
  have hfrac : ahead B (c.skip 1) = cs.flatMap Text.encodeChar ++ rest := by simp [h]
  have hend : ahead B (c.skip (1 + cs.length)) = rest := by
    rw [← skip_skip, ahead_skip, hfrac, ← length_flatMap_encodeChar_of_isDigit hd, List.drop_left]
  rw [parseNumberTail, runAt_bind, runAt_peekOrNull, h]
  dsimp only [List.head?_cons, Option.getD_some]
  rw [if_pos rfl, runAt_bind, parseDecimal, runAt_bind, runAt_eat]
  dsimp only
  rw [runAt_bind, runAt_fuel, hfrac]
  dsimp only
  rw [show (cs.flatMap Text.encodeChar ++ rest).length + 2 = rest.length + 2 + cs.length by
    rw [List.length_append, length_flatMap_encodeChar_of_isDigit hd]; omega]
  rw [runAt_bind, runAt_parseDecimal_digits cs hd hfrac hnd _ _ _ hmax]
  -- at least one digit was read, so the number has a fraction and goes to scaling
  have hafter : (0 : Int) - cs.length ≠ 0 := by
    have := List.length_pos_iff.mpr hne
    omega
  dsimp only
  rw [if_neg hafter, skip_skip, runAt_bind, runAt_peekOrNull, hend]
  dsimp only
  rw [if_neg (by simp [h101, h69]), fromParts, scaleLoop]
  have hk : (0 + ((0 : Int) - cs.length)).natAbs = cs.length := by omega
  dsimp only
  rw [hk, if_pos hlen, if_neg (by omega)]
  rfl

end OpenApiLint.Json
