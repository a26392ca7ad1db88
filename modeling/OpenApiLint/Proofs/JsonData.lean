import Mathlib
import OpenApiLint.Proofs.JsonRead
import OpenApiLint.Proofs.KeyedList
/-!
# Compact data text reads back

The compact text of a data value, read by the JSON value reader, gives the
value back — when the value is one that the text can carry.  Three things can
stand in the way, and each is a hypothesis here:

* the value must be `Storable`: integers in the 64-bit ranges, objects with
  distinct keys (the reader keeps one entry per key);
* it must not nest deeper than the cursor allows (`Value.depth`);
* every double in it must read back from its data text (`ReadsBack`).  This
  is shown for a double written as digits, a point and digits that the
  reader's one rounding takes back to it (`readsBack_of_decimal`), not for
  every double.

The bytes of compact text are described once more here, in the shape a reader
takes them in (`Value.bytes`): an item list is its first item, then each
further item after a comma.  `bytes_compact` ties this to the printer.

Everything is stated with one predicate, `Reads x v a`: from any cursor with
the text of `v` ahead, followed by what may follow a value, the reader `x`
returns `a` and stops right after the text.  The loops over items and entries
get a lemma each, for any item reader; the value reader gets one lemma per
kind of value, put together by induction on `Storable`, and the primitives that
documents are read with (`optional`, `text`, `list`, `entries`, `record`) are
handled the same way.

## Main statements

* `Value.bytes_compact` — the bytes of the compact text.
* `Json.reads_value` — the value reader reads a storable value back.
* `Json.readsBack_of_decimal` — a double written with a point reads back.
* `Json.reads_record` — a record reads back from its fields, field by field.
-/

namespace OpenApiLint

open Number

/-! ## The bytes of compact text -/

mutual
/-- The bytes of a value's compact text. -/
def Value.bytes : Value → List UInt8
  | .null => Text.encodeUtf8 "null"
  | .bool b => Text.encodeUtf8 (if b then "true" else "false")
  | .int n => Text.encodeUtf8 (toString n)
  | .float x => Text.encodeUtf8 x.dataText
  | .str s => Text.encodeUtf8 (quoteData s)
  | .arr items => 91 :: Value.itemsBytes true items ++ [93]
  | .obj entries => 123 :: Value.entriesBytes true entries ++ [125]

/-- The bytes of array items, the first of them at an opening bracket when
`first`, each other one after a comma. -/
def Value.itemsBytes (first : Bool) : List Value → List UInt8
  | [] => []
  | v :: rest => (if first then [] else [44]) ++ v.bytes ++ Value.itemsBytes false rest

/-- The bytes of object entries, laid out as `itemsBytes` lays out items. -/
def Value.entriesBytes (first : Bool) : List (String × Value) → List UInt8
  | [] => []
  | (k, v) :: rest =>
    (if first then [] else [44]) ++ Text.encodeUtf8 (quoteData k) ++ 58 :: v.bytes ++
      Value.entriesBytes false rest
end

mutual
/-- How deep arrays and objects nest in a value. -/
def Value.depth : Value → Nat
  | .arr items => Value.itemsDepth items + 1
  | .obj entries => Value.entriesDepth entries + 1
  | _ => 0

/-- The deepest nesting among items. -/
def Value.itemsDepth : List Value → Nat
  | [] => 0
  | v :: rest => max v.depth (Value.itemsDepth rest)

/-- The deepest nesting among entries' values. -/
def Value.entriesDepth : List (String × Value) → Nat
  | [] => 0
  | (_, v) :: rest => max v.depth (Value.entriesDepth rest)
end

mutual
/-- The doubles of a value, in text order. -/
def Value.doubles : Value → List Binary64
  | .float x => [x]
  | .arr items => Value.itemsDoubles items
  | .obj entries => Value.entriesDoubles entries
  | _ => []

/-- The doubles of items. -/
def Value.itemsDoubles : List Value → List Binary64
  | [] => []
  | v :: rest => v.doubles ++ Value.itemsDoubles rest

/-- The doubles of entries' values. -/
def Value.entriesDoubles : List (String × Value) → List Binary64
  | [] => []
  | (_, v) :: rest => v.doubles ++ Value.entriesDoubles rest
end

/-- The values that compact text carries as they are: integers of the 64-bit
ranges and objects whose keys are distinct, at every depth. -/
inductive Value.Storable : Value → Prop
  | null : Value.Storable .null
  | bool (b : Bool) : Value.Storable (.bool b)
  | int {n : Int} (lo : -(2 ^ 63 : Int) ≤ n) (hi : n ≤ (Json.u64Max : Int)) : Value.Storable (.int n)
  | float (x : Binary64) : Value.Storable (.float x)
  | str (s : String) : Value.Storable (.str s)
  | arr {items : List Value} (each : ∀ v ∈ items, Value.Storable v) : Value.Storable (.arr items)
  | obj {entries : List (String × Value)} (keys : (entries.map Prod.fst).Nodup)
      (each : ∀ kv ∈ entries, Value.Storable kv.2) : Value.Storable (.obj entries)

/-- The bytes of the punctuation of compact text. -/
@[simp] theorem encodeChar_punctuation :
    Text.encodeChar '[' = [91] ∧ Text.encodeChar ']' = [93] ∧ Text.encodeChar '\x7b' = [123] ∧
      Text.encodeChar '\x7d' = [125] ∧ Text.encodeChar ',' = [44] ∧ Text.encodeChar ':' = [58] := by
  decide

namespace Value

theorem itemsBytes_false_cons (v : Value) (rest : List Value) :
    itemsBytes false (v :: rest) = 44 :: itemsBytes true (v :: rest) := by
  simp [itemsBytes]

theorem entriesBytes_false_cons (kv : String × Value) (rest : List (String × Value)) :
    entriesBytes false (kv :: rest) = 44 :: entriesBytes true (kv :: rest) := by
  obtain ⟨k, v⟩ := kv
  simp [entriesBytes]

-- the printer writes onto the text so far, so each statement is about a text `out` before it
mutual
theorem encodeUtf8_writeCompact : ∀ (out : String) (v : Value),
    Text.encodeUtf8 (v.writeCompact out) = Text.encodeUtf8 out ++ v.bytes
  | out, .null => by simp [writeCompact, bytes, Text.encodeUtf8_append]
  | out, .bool b => by simp [writeCompact, bytes, Text.encodeUtf8_append]
  | out, .int n => by simp [writeCompact, bytes, Text.encodeUtf8_append]
  | out, .float x => by simp [writeCompact, bytes, Text.encodeUtf8_append]
  | out, .str s => by simp [writeCompact, bytes, Text.encodeUtf8_append]
  | out, .arr items => by
    have hi := encodeUtf8_writeItems (out ++ "[") items
    simp only [writeCompact, bytes, Text.encodeUtf8_append, hi]
    simp [Text.encodeUtf8]
  | out, .obj entries => by
    have he := encodeUtf8_writeEntries (out ++ "\x7b") entries
    simp only [writeCompact, bytes, Text.encodeUtf8_append, he]
    simp [Text.encodeUtf8]

theorem encodeUtf8_writeItems : ∀ (out : String) (items : List Value),
    Text.encodeUtf8 (writeItems out items) = Text.encodeUtf8 out ++ itemsBytes true items
  | out, [] => by simp [writeItems, itemsBytes]
  | out, [v] => by simp [writeItems, itemsBytes, encodeUtf8_writeCompact]
  | out, v :: w :: rest => by
    have hv := encodeUtf8_writeCompact out v
    have hr := encodeUtf8_writeItems (v.writeCompact out ++ ",") (w :: rest)
    rw [writeItems, hr, Text.encodeUtf8_append, hv]
    · simp [itemsBytes, Text.encodeUtf8]
    · exact List.cons_ne_nil w rest

theorem encodeUtf8_writeEntries : ∀ (out : String) (entries : List (String × Value)),
    Text.encodeUtf8 (writeEntries out entries) = Text.encodeUtf8 out ++ entriesBytes true entries
  | out, [] => by simp [writeEntries, entriesBytes]
  | out, [(k, v)] => by
    rw [writeEntries, encodeUtf8_writeCompact]
    simp [entriesBytes, Text.encodeUtf8]
  | out, (k, v) :: kv :: rest => by
    have hv := encodeUtf8_writeCompact (out ++ quoteData k ++ ":") v
    have hr := encodeUtf8_writeEntries (v.writeCompact (out ++ quoteData k ++ ":") ++ ",") (kv :: rest)
    rw [writeEntries, hr, Text.encodeUtf8_append, hv]
    · simp [entriesBytes, Text.encodeUtf8]
    · exact List.cons_ne_nil kv rest
end

/-- **The bytes of the compact text.** -/
theorem bytes_compact (v : Value) : Text.encodeUtf8 v.compact = v.bytes := by
  rw [compact, encodeUtf8_writeCompact]
  simp [Text.encodeUtf8]

end Value

/-! ## Where the text of a value starts -/

theorem toList_decimalDigits (n : Nat) :
    ∃ d r, (decimalDigits n).toList = d :: r ∧ d.isDigit ∧ ∀ ch ∈ r, ch.isDigit := by
  obtain ⟨d, r, h⟩ := List.exists_cons_of_ne_nil (Nat.toDigits_ne_nil (b := 10) (n := n))
  have hall : ∀ ch ∈ Nat.toDigits 10 n, ch.isDigit := fun ch hc =>
    Nat.isDigit_of_mem_toDigits (by omega) (by omega) hc
  rw [h] at hall
  exact ⟨d, r, by simp [decimalDigits, h], hall d (by simp), fun ch hc => hall ch (by simp [hc])⟩

/-- The data text of a double starts with its sign or a digit. -/
theorem head?_dataText (x : Binary64) :
    ∃ ch, x.dataText.toList.head? = some ch ∧ (ch = '-' ∨ ch.isDigit) := by
  obtain ⟨d, r, hds, hd, -⟩ := toList_decimalDigits (x.shortest .even).digits
  simp only [Binary64.dataText]
  generalize decimalDigits (x.shortest .even).digits = ds at hds ⊢
  generalize (x.shortest .even).power = p
  by_cases hn : x.negative
  · simp only [hn, if_true]
    split_ifs <;> simp [String.toList_append]
  · simp only [hn, Bool.false_eq_true, ↓reduceIte]
    split_ifs
    · simp
    · simp [String.toList_append, hds, hd]
    · -- the point falls inside the digits, so at least one digit comes before it
      rename_i hpoint
      simp only [Bool.and_eq_true, decide_eq_true_eq] at hpoint
      obtain ⟨k, hk⟩ : ∃ k, ((ds.length : Int) + p).toNat = k + 1 :=
        ⟨_, (Nat.succ_pred_eq_of_pos (by omega)).symm⟩
      simp [String.toList_append, hds, hd, hk]
    all_goals simp [String.toList_append, hds, hd]

/-- An integer's text starts with its sign or a digit. -/
theorem head?_toString_int (n : Int) :
    ∃ ch, (toString n).toList.head? = some ch ∧ (ch = '-' ∨ ch.isDigit) := by
  cases n with
  | ofNat m =>
    obtain ⟨d, r, hds, hd, -⟩ := toList_decimalDigits m
    have hm : toString (Int.ofNat m) = decimalDigits m := by
      change Nat.repr m = _
      rfl
    exact ⟨d, by rw [hm, hds]; rfl, Or.inr hd⟩
  | negSucc m => exact ⟨'-', by simp [show toString (Int.negSucc m) = "-" ++ toString (m + 1) from rfl], Or.inl rfl⟩

/-- A byte that can start the text of a value: not white space, not a comma,
not a closing bracket or brace. -/
def Json.StartsValue (b : UInt8) : Prop := Json.NotBlank b ∧ b ≠ 44 ∧ b ≠ 93 ∧ b ≠ 125

instance : DecidablePred Json.NotBlank := fun b => by
  unfold Json.NotBlank
  infer_instance

instance : DecidablePred Json.StartsValue := fun b => by
  unfold Json.StartsValue
  infer_instance

/-- The first byte of a text that starts with a sign or a digit. -/
theorem encodeUtf8_of_head? {s : String} {ch : Char} (h : s.toList.head? = some ch)
    (hch : ch = '-' ∨ ch.isDigit) :
    ∃ rest, Text.encodeUtf8 s = ch.toNat.toUInt8 :: rest ∧ Json.StartsValue ch.toNat.toUInt8 ∧
      ch.toNat.toUInt8 ≠ 110 := by
  obtain ⟨r, hs⟩ : ∃ r, s.toList = ch :: r := by
    cases hl : s.toList with
    | nil => simp [hl] at h
    | cons a r => exact ⟨r, by simp_all⟩
  have hr : 45 ≤ ch.toNat ∧ ch.toNat ≤ 57 := by
    rcases hch with rfl | hd
    · decide
    · have hd' : 48 ≤ ch.toNat ∧ ch.toNat ≤ 57 := by
        simp [Char.isDigit] at hd
        exact ⟨hd.1, hd.2⟩
      omega
  have hb : Text.encodeChar ch = [ch.toNat.toUInt8] := by
    simp [Text.encodeChar, Text.encodePoint]
    omega
  have hv : (ch.toNat.toUInt8).toNat = ch.toNat := by simp; omega
  refine ⟨_, by rw [Text.encodeUtf8, hs, List.flatMap_cons, hb, List.singleton_append], ?_, ?_⟩
  · refine ⟨⟨?_, ?_, ?_, ?_⟩, ?_, ?_, ?_⟩ <;> intro he <;> rw [he] at hv <;> simp at hv <;> omega
  · intro he
    rw [he] at hv
    simp at hv
    omega

namespace Value

/-- **The text of a value starts with a byte that can start a value**, and only
null's with an `n`. -/
theorem bytes_cons (v : Value) :
    ∃ b rest, v.bytes = b :: rest ∧ Json.StartsValue b ∧ (b = 110 → v = .null) := by
  cases v with
  | null => exact ⟨110, _, rfl, by decide, fun _ => rfl⟩
  | bool b =>
    cases b
    · exact ⟨102, _, rfl, by decide, fun h => absurd h (by decide)⟩
    · exact ⟨116, _, rfl, by decide, fun h => absurd h (by decide)⟩
  | int n =>
    obtain ⟨ch, hh, hch⟩ := head?_toString_int n
    obtain ⟨rest, he, hs, hn⟩ := encodeUtf8_of_head? hh hch
    exact ⟨_, rest, he, hs, fun h => absurd h hn⟩
  | float x =>
    obtain ⟨ch, hh, hch⟩ := head?_dataText x
    obtain ⟨rest, he, hs, hn⟩ := encodeUtf8_of_head? hh hch
    exact ⟨_, rest, he, hs, fun h => absurd h hn⟩
  | str s =>
    exact ⟨34, _, Json.encodeUtf8_quoteData s, by decide, fun h => absurd h (by decide)⟩
  | arr items => exact ⟨91, _, rfl, by decide, fun h => absurd h (by decide)⟩
  | obj entries => exact ⟨123, _, rfl, by decide, fun h => absurd h (by decide)⟩

theorem bytes_ne_nil (v : Value) : v.bytes ≠ [] := by
  obtain ⟨b, rest, h, -⟩ := v.bytes_cons
  simp [h]

theorem bytes_null : Value.null.bytes = [110, 117, 108, 108] := by
  rw [bytes]
  decide

theorem bytes_bool (b : Bool) :
    (Value.bool b).bytes = if b then [116, 114, 117, 101] else [102, 97, 108, 115, 101] := by
  cases b <;> (rw [bytes]; decide)

/-! ## Depth and doubles of members -/

theorem depth_le_itemsDepth {v : Value} {items : List Value} (h : v ∈ items) :
    v.depth ≤ itemsDepth items := by
  induction items with
  | nil => simp at h
  | cons w rest ih =>
    rcases List.mem_cons.mp h with rfl | h
    · simp [itemsDepth]
    · have := ih h
      simp only [itemsDepth]
      omega

theorem depth_le_entriesDepth {kv : String × Value} {entries : List (String × Value)}
    (h : kv ∈ entries) : kv.2.depth ≤ entriesDepth entries := by
  induction entries with
  | nil => simp at h
  | cons kw rest ih =>
    obtain ⟨k, w⟩ := kw
    rcases List.mem_cons.mp h with rfl | h
    · simp [entriesDepth]
    · have := ih h
      simp only [entriesDepth]
      omega

theorem mem_doubles_of_mem_items {x : Binary64} {v : Value} {items : List Value} (hv : v ∈ items)
    (hx : x ∈ v.doubles) : x ∈ itemsDoubles items := by
  induction items with
  | nil => simp at hv
  | cons w rest ih =>
    rcases List.mem_cons.mp hv with rfl | hv
    · simp [itemsDoubles, hx]
    · simp [itemsDoubles, ih hv]

theorem mem_doubles_of_mem_entries {x : Binary64} {kv : String × Value}
    {entries : List (String × Value)} (hv : kv ∈ entries) (hx : x ∈ kv.2.doubles) :
    x ∈ entriesDoubles entries := by
  induction entries with
  | nil => simp at hv
  | cons kw rest ih =>
    obtain ⟨k, w⟩ := kw
    rcases List.mem_cons.mp hv with rfl | hv
    · simp [entriesDoubles, hx]
    · simp [entriesDoubles, ih hv]

end Value

namespace Json

variable {α β : Type} {B : ByteArray} {c : Cursor}

/-! ## Reading a value's text -/

/-- `x` reads the compact text of `v` to `a`: from every cursor with that text
ahead, followed by what may follow a value, and with room to nest `v`, it
returns `a` and stops right after the text. -/
def Reads (x : Reader α) (v : Value) (a : α) : Prop :=
  ∀ (B : ByteArray) (c : Cursor) (rest : List UInt8), ahead B c = v.bytes ++ rest → Closes rest →
    v.depth < c.depth → runAt x B c = (.ok a, c.skip v.bytes.length)

theorem Reads.bind_pure {x : Reader α} {v : Value} {a : α} (h : Reads x v a) (f : α → β) :
    Reads (x >>= fun y => pure (f y)) v (f a) := by
  intro B c rest hB hr hd
  rw [runAt_bind, h B c rest hB hr hd]
  rfl

theorem Reads.map {x : Reader α} {v : Value} {a : α} (h : Reads x v a) (f : α → β) :
    Reads (f <$> x) v (f a) := by
  intro B c rest hB hr hd
  rw [runAt_map, h B c rest hB hr hd]

theorem Reads.of_eq {x : Reader α} {v : Value} {a b : α} (h : Reads x v a) (e : a = b) :
    Reads x v b :=
  e ▸ h

/-- The data text of a double reads back to it, wherever it stands in compact
text: what the number reader is trusted to do. -/
def ReadsBack (x : Binary64) : Prop := ∀ fuel, Reads (value (fuel + 1)) (.float x) (.float x)

@[simp] theorem depth_skip (n : Nat) : (c.skip n).depth = c.depth := rfl

theorem closes_itemsBytes_false (vs : List Value) (rest : List UInt8) :
    Closes (Value.itemsBytes false vs ++ 93 :: rest) := by
  cases vs with
  | nil => simp [Closes, Value.itemsBytes]
  | cons v vs => simp [Closes, Value.itemsBytes_false_cons]

theorem closes_entriesBytes_false (es : List (String × Value)) (rest : List UInt8) :
    Closes (Value.entriesBytes false es ++ 125 :: rest) := by
  cases es with
  | nil => simp [Closes, Value.entriesBytes]
  | cons kv es => simp [Closes, Value.entriesBytes_false_cons]

/-! ## Brackets -/

theorem runAt_enter (hd : 1 < c.depth) :
    runAt enter B c = (.ok (), ⟨c.index + 1, c.depth - 1⟩) := by
  simp [enter, runAt_bind, Nat.not_le.mpr hd]

@[simp] theorem runAt_leave : runAt leave B c = (.ok (), { c with depth := c.depth + 1 }) := rfl

theorem runAt_attempt (x : Reader α) :
    runAt (attempt x) B c = (.ok (runAt x B c).1, (runAt x B c).2) := by
  rw [attempt, runAt_tryCatch, runAt_bind]
  rcases runAt x B c with ⟨_ | _, _⟩ <;> rfl

/-- **Reading between brackets**: a body that reads the bytes inside, then a
closing step that takes the closing byte. -/
theorem runAt_bracketed {body : Reader α} {close : Reader Unit} {a : α} {o e : UInt8}
    {inner rest : List UInt8} (hd : 1 < c.depth) (hB : ahead B c = o :: inner ++ e :: rest)
    (hbody : ∀ c' : Cursor, ahead B c' = inner ++ e :: rest → c'.depth = c.depth - 1 →
      runAt body B c' = (.ok a, c'.skip inner.length))
    (hclose : ∀ c' : Cursor, ahead B c' = e :: rest → runAt close B c' = (.ok (), c'.skip 1)) :
    runAt (bracketed body close) B c = (.ok a, c.skip (inner.length + 2)) := by
  have hin : ahead B ⟨c.index + 1, c.depth - 1⟩ = inner ++ e :: rest := by
    simpa [ahead] using congrArg (List.drop 1) hB
  rw [bracketed, runAt_bind, runAt_enter hd]
  dsimp only
  rw [runAt_bind, runAt_attempt, hbody _ hin rfl]
  dsimp only
  rw [runAt_bind, runAt_leave]
  dsimp only
  rw [runAt_bind, runAt_attempt, hclose]
  · dsimp only
    rw [runAt_pure]
    simp only [Cursor.skip, Prod.mk.injEq, Cursor.mk.injEq, true_and]
    constructor
    · omega
    · omega
  · -- the closing byte follows the inner bytes
    simpa [ahead, Cursor.skip, Nat.add_assoc] using congrArg (List.drop inner.length) hin

theorem runAt_endSeq {rest : List UInt8} (h : ahead B c = 93 :: rest) :
    runAt endSeq B c = (.ok (), c.skip 1) := by
  simp [endSeq, runAt_bind, runAt_parseWhitespace h (by decide)]

theorem runAt_endMap {rest : List UInt8} (h : ahead B c = 125 :: rest) :
    runAt endMap B c = (.ok (), c.skip 1) := by
  simp [endMap, runAt_bind, runAt_parseWhitespace h (by decide)]

/-! ## Items and entries -/

theorem runAt_hasNextElement_end (first : Bool) {rest : List UInt8} (h : ahead B c = 93 :: rest) :
    runAt (hasNextElement first) B c = (.ok false, c) := by
  simp [hasNextElement, runAt_bind, runAt_parseWhitespace h (by decide)]

theorem runAt_hasNextElement_item (first : Bool) (v : Value) {more : List UInt8}
    (h : ahead B c = (if first then [] else [44]) ++ v.bytes ++ more) :
    runAt (hasNextElement first) B c = (.ok true, c.skip (if first then 0 else 1)) := by
  obtain ⟨b, r, hv, ⟨hnb, h44, h93, -⟩, -⟩ := v.bytes_cons
  cases first with
  | true =>
    simp only [if_true, List.nil_append, hv, List.cons_append] at h
    simp only [hasNextElement, runAt_bind, runAt_parseWhitespace h hnb]
    split <;> simp_all [Cursor.skip]
  | false =>
    simp only [Bool.false_eq_true, if_false, hv, List.cons_append] at h
    have h' : ahead B (c.skip 1) = b :: (r ++ more) := by simp [h]
    simp only [hasNextElement, runAt_bind, runAt_parseWhitespace h (by decide)]
    simp [runAt_bind, runAt_parseWhitespace h' hnb]

theorem runAt_hasNextKey_end (first : Bool) {rest : List UInt8} (h : ahead B c = 125 :: rest) :
    runAt (hasNextKey first) B c = (.ok false, c) := by
  simp [hasNextKey, runAt_bind, runAt_parseWhitespace h (by decide)]

theorem runAt_hasNextKey_entry (first : Bool) (more : List UInt8)
    (h : ahead B c = (if first then [] else [44]) ++ 34 :: more) :
    runAt (hasNextKey first) B c = (.ok true, c.skip (if first then 0 else 1)) := by
  cases first with
  | true =>
    simp only [if_true, List.nil_append] at h
    simp [hasNextKey, runAt_bind, runAt_parseWhitespace h (by decide), Cursor.skip]
  | false =>
    simp only [Bool.false_eq_true, if_false, List.singleton_append] at h
    have h' : ahead B (c.skip 1) = 34 :: more := by simp [h]
    simp only [hasNextKey, runAt_bind, runAt_parseWhitespace h (by decide)]
    simp [runAt_bind, runAt_parseWhitespace h' (by decide)]

/-- A key reads back from its quoted text. -/
theorem runAt_parseKey (k : String) {more : List UInt8}
    (h : ahead B c = Text.encodeUtf8 (quoteData k) ++ more) :
    runAt parseKey B c = (.ok k, c.skip (Text.encodeUtf8 (quoteData k)).length) := by
  rw [encodeUtf8_quoteData] at h ⊢
  have h' : ahead B (c.skip 1) = k.toList.flatMap quotedBytes ++ 34 :: more := by simp [h]
  simp only [parseKey, runAt_bind, runAt_eat, runAt_parseStr k h', skip_skip]
  simp [Nat.add_comm]

theorem runAt_parseObjectColon {more : List UInt8} (h : ahead B c = 58 :: more) :
    runAt parseObjectColon B c = (.ok (), c.skip 1) := by
  simp [parseObjectColon, runAt_bind, runAt_parseWhitespace h (by decide)]

theorem length_sep (first : Bool) :
    (if first then [] else [44] : List UInt8).length = if first then 0 else 1 := by
  cases first <;> rfl

/-- One round of the item loop: an item, after a comma unless it is the
first, is read by the item reader and the loop goes on after it. -/
theorem runAt_itemsLoop_item {item : Reader α} {v : Value} {a : α} (hva : Reads item v a)
    (first : Bool) (acc : Array α) {more : List UInt8} (hmore : Closes more)
    (hB : ahead B c = (if first then [] else [44]) ++ v.bytes ++ more) (hd : v.depth < c.depth)
    (n : Nat) :
    runAt (itemsLoop item (n + 1) first acc) B c =
      runAt (itemsLoop item n false (acc.push a)) B
        (c.skip ((if first then 0 else 1) + v.bytes.length)) := by
  have hv : ahead B (c.skip (if first then 0 else 1)) = v.bytes ++ more := by
    cases first <;> simp [hB]
  rw [itemsLoop, runAt_bind, runAt_hasNextElement_item first v hB]
  dsimp only
  rw [if_pos rfl, runAt_bind, hva B _ _ hv hmore (by simpa using hd)]
  dsimp only
  rw [skip_skip]

/-- **The item loop reads items back**, each with the item reader, and stops
at the closing bracket. -/
theorem runAt_itemsLoop {item : Reader α} {vs : List Value} {as : List α}
    (h : List.Forall₂ (Reads item) vs as) (first : Bool) (acc : Array α) {rest : List UInt8}
    (hB : ahead B c = Value.itemsBytes first vs ++ 93 :: rest) (hd : Value.itemsDepth vs < c.depth)
    (n : Nat) (hn : (Value.itemsBytes first vs).length < n) :
    runAt (itemsLoop item n first acc) B c =
      (.ok (acc ++ as.toArray), c.skip (Value.itemsBytes first vs).length) := by
  induction h generalizing first acc c n with
  | nil =>
    obtain ⟨m, rfl⟩ : ∃ m, n = m + 1 := ⟨n - 1, by omega⟩
    simp only [Value.itemsBytes, List.nil_append] at hB
    simp [itemsLoop, runAt_bind, runAt_hasNextElement_end first hB, Value.itemsBytes, Cursor.skip]
  | @cons v a vs as hva _ ih =>
    obtain ⟨m, rfl⟩ : ∃ m, n = m + 1 := ⟨n - 1, by omega⟩
    -- the item, after a comma unless it is the first, then the items after it
    have hsplit : Value.itemsBytes first (v :: vs) =
        (if first then [] else [44]) ++ v.bytes ++ Value.itemsBytes false vs := by
      simp [Value.itemsBytes]
    rw [hsplit] at hB hn ⊢
    have hdv : v.depth < c.depth ∧ Value.itemsDepth vs < c.depth := by
      simp only [Value.itemsDepth] at hd
      omega
    have hrest : ahead B (c.skip ((if first then 0 else 1) + v.bytes.length)) =
        Value.itemsBytes false vs ++ 93 :: rest := by
      rw [ahead_skip, hB, List.append_assoc, ← length_sep, ← List.length_append, List.drop_left]
    rw [runAt_itemsLoop_item hva first acc (closes_itemsBytes_false vs rest)
      (by rw [hB, List.append_assoc]) hdv.1 m]
    -- an item's text is never empty, so the loop has fuel left for the rest
    have hlen := List.length_pos_of_ne_nil v.bytes_ne_nil
    rw [ih false (acc.push a) hrest (by simpa using hdv.2) m
      (by simp only [List.length_append, length_sep] at hn; omega)]
    simp [length_sep, Nat.add_assoc]

/-- **The head of an entry**: after the separator (a comma, unless the entry
is the first), the quoted key reads back and the colon is stepped over, which
leaves the value's text ahead. -/
theorem runAt_entryHead (first : Bool) (k : String) (v : Value) (more : List UInt8)
    (h : ahead B c = (if first then [] else [44]) ++ Text.encodeUtf8 (quoteData k) ++ 58 :: v.bytes ++ more) :
    runAt (hasNextKey first) B c = (.ok true, c.skip (if first then 0 else 1)) ∧
    runAt parseKey B (c.skip (if first then 0 else 1)) =
      (.ok k, c.skip ((if first then 0 else 1) + (Text.encodeUtf8 (quoteData k)).length)) ∧
    runAt parseObjectColon B (c.skip ((if first then 0 else 1) + (Text.encodeUtf8 (quoteData k)).length)) =
      (.ok (), c.skip ((if first then 0 else 1) + (Text.encodeUtf8 (quoteData k)).length + 1)) ∧
    ahead B (c.skip ((if first then 0 else 1) + (Text.encodeUtf8 (quoteData k)).length + 1)) =
      v.bytes ++ more := by
  have hq := encodeUtf8_quoteData k
  have hk : ahead B (c.skip (if first then 0 else 1)) =
      Text.encodeUtf8 (quoteData k) ++ 58 :: (v.bytes ++ more) := by
    cases first <;> simp [h]
  have hcolon : ahead B (c.skip ((if first then 0 else 1) + (Text.encodeUtf8 (quoteData k)).length)) =
      58 :: (v.bytes ++ more) := by
    rw [← skip_skip, ahead_skip, hk, List.drop_left]
  refine ⟨runAt_hasNextKey_entry first
      (k.toList.flatMap quotedBytes ++ 34 :: 58 :: (v.bytes ++ more)) (by rw [h, hq]; simp),
    by rw [runAt_parseKey k hk, skip_skip], by rw [runAt_parseObjectColon hcolon, skip_skip], ?_⟩
  rw [← skip_skip, ahead_skip, hcolon]
  rfl

theorem entriesBytes_cons (first : Bool) (k : String) (v : Value) (es : List (String × Value)) :
    Value.entriesBytes first ((k, v) :: es) =
      (if first then [] else [44]) ++ Text.encodeUtf8 (quoteData k) ++ 58 :: v.bytes ++
        Value.entriesBytes false es := by
  simp [Value.entriesBytes]

/-- One round of the entry loop: after the separator, the key and the colon,
the value is read by the item reader and the loop goes on after it. -/
theorem runAt_entriesLoop_entry {item : Reader α} {k : String} {v : Value} {a : α}
    (hva : Reads item v a) (first : Bool) (acc : Array (String × α)) {more : List UInt8}
    (hmore : Closes more)
    (hB : ahead B c = (if first then [] else [44]) ++ Text.encodeUtf8 (quoteData k) ++
      58 :: v.bytes ++ more)
    (hd : v.depth < c.depth) (n : Nat) :
    runAt (entriesLoop item (n + 1) first acc) B c =
      runAt (entriesLoop item n false (acc.push (k, a))) B
        (c.skip ((if first then 0 else 1) + (Text.encodeUtf8 (quoteData k)).length + 1 +
          v.bytes.length)) := by
  obtain ⟨h₁, h₂, h₃, hv⟩ := runAt_entryHead first k v more hB
  rw [entriesLoop, runAt_bind, h₁]
  dsimp only
  rw [if_pos rfl, runAt_bind, h₂]
  dsimp only
  rw [runAt_bind, h₃]
  dsimp only
  rw [runAt_bind, hva B _ _ hv hmore (by simpa using hd)]
  dsimp only
  rw [skip_skip]

/-- **The entry loop reads entries back**: each key as written, each value with
the item reader; it stops at the closing brace. -/
theorem runAt_entriesLoop {item : Reader α} {es : List (String × Value)} {as : List (String × α)}
    (h : List.Forall₂ (fun kv ka => kv.1 = ka.1 ∧ Reads item kv.2 ka.2) es as) (first : Bool)
    (acc : Array (String × α)) {rest : List UInt8}
    (hB : ahead B c = Value.entriesBytes first es ++ 125 :: rest) (hd : Value.entriesDepth es < c.depth)
    (n : Nat) (hn : (Value.entriesBytes first es).length < n) :
    runAt (entriesLoop item n first acc) B c =
      (.ok (acc ++ as.toArray), c.skip (Value.entriesBytes first es).length) := by
  induction h generalizing first acc c n with
  | nil =>
    obtain ⟨m, rfl⟩ : ∃ m, n = m + 1 := ⟨n - 1, by omega⟩
    simp only [Value.entriesBytes, List.nil_append] at hB
    simp [entriesLoop, runAt_bind, runAt_hasNextKey_end first hB, Value.entriesBytes, Cursor.skip]
  | @cons kv ka es as hka _ ih =>
    obtain ⟨k, v⟩ := kv
    obtain ⟨k', a⟩ := ka
    obtain ⟨rfl, hva⟩ := hka
    obtain ⟨m, rfl⟩ : ∃ m, n = m + 1 := ⟨n - 1, by omega⟩
    rw [entriesBytes_cons] at hB hn ⊢
    have hdv : v.depth < c.depth ∧ Value.entriesDepth es < c.depth := by
      simp only [Value.entriesDepth] at hd
      omega
    -- the entry, then the entries after it
    have hentry : ahead B c = (if first then [] else [44]) ++ Text.encodeUtf8 (quoteData k) ++
        58 :: v.bytes ++ (Value.entriesBytes false es ++ 125 :: rest) := by
      rw [hB]
      simp
    have hrest : ahead B (c.skip ((if first then 0 else 1) + (Text.encodeUtf8 (quoteData k)).length + 1 +
        v.bytes.length)) = Value.entriesBytes false es ++ 125 :: rest := by
      rw [← skip_skip, ahead_skip, (runAt_entryHead first k v _ hentry).2.2.2, List.drop_left]
    rw [runAt_entriesLoop_entry hva first acc (closes_entriesBytes_false es rest) hentry hdv.1 m]
    rw [ih false (acc.push (k, a)) hrest (by simpa using hdv.2) m
      (by simp only [List.length_append, List.length_cons, length_sep] at hn; omega)]
    simp only [length_sep, skip_skip, List.length_append, List.length_cons]
    exact Prod.ext (by simp) (congrArg c.skip (by omega))

/-! ## Arrays and objects -/

theorem depth_lt_of_arr {vs : List Value} (h : (Value.arr vs).depth < c.depth) :
    1 < c.depth ∧ Value.itemsDepth vs < c.depth - 1 := by
  simp only [Value.depth] at h
  omega

theorem depth_lt_of_obj {es : List (String × Value)} (h : (Value.obj es).depth < c.depth) :
    1 < c.depth ∧ Value.entriesDepth es < c.depth - 1 := by
  simp only [Value.depth] at h
  omega

/-- The inside of an array, from after its bracket: the items, with the item
loop given all the fuel there is, and then whatever is done with them. -/
theorem runAt_itemsBody {item : Reader α} {vs : List Value} {as : List α}
    (h : List.Forall₂ (Reads item) vs as) {rest : List UInt8}
    (hB : ahead B c = Value.itemsBytes true vs ++ 93 :: rest) (hd : Value.itemsDepth vs < c.depth)
    (k : Array α → Reader β) :
    runAt (fuel >>= fun n => itemsLoop item n true #[] >>= k) B c =
      runAt (k as.toArray) B (c.skip (Value.itemsBytes true vs).length) := by
  have hn : (Value.itemsBytes true vs).length < (ahead B c).length + 2 := by
    rw [hB, List.length_append]
    omega
  rw [runAt_bind, runAt_fuel]
  dsimp only
  rw [runAt_bind, runAt_itemsLoop h true #[] hB hd _ hn]
  simp

/-- The inside of an object, from after its brace: the entries, with the entry
loop given all the fuel there is, and then whatever is done with them. -/
theorem runAt_entriesBody {item : Reader α} {es : List (String × Value)} {as : List (String × α)}
    (h : List.Forall₂ (fun kv ka => kv.1 = ka.1 ∧ Reads item kv.2 ka.2) es as) {rest : List UInt8}
    (hB : ahead B c = Value.entriesBytes true es ++ 125 :: rest) (hd : Value.entriesDepth es < c.depth)
    (k : Array (String × α) → Reader β) :
    runAt (fuel >>= fun n => entriesLoop item n true #[] >>= k) B c =
      runAt (k as.toArray) B (c.skip (Value.entriesBytes true es).length) := by
  have hn : (Value.entriesBytes true es).length < (ahead B c).length + 2 := by
    rw [hB, List.length_append]
    omega
  rw [runAt_bind, runAt_fuel]
  dsimp only
  rw [runAt_bind, runAt_entriesLoop h true #[] hB hd _ hn]
  simp

/-- **An array reads back**, item by item. -/
theorem reads_list {item : Reader α} {vs : List Value} {as : List α}
    (h : List.Forall₂ (Reads item) vs as) : Reads (list item) (.arr vs) as := by
  intro B c rest hB _ hd
  obtain ⟨hd1, hdi⟩ := depth_lt_of_arr hd
  have hB' : ahead B c = 91 :: Value.itemsBytes true vs ++ 93 :: rest := by
    simpa [Value.bytes] using hB
  rw [list, runAt_bind, runAt_parseWhitespace hB' (by decide)]
  show runAt (bracketed _ endSeq) B c = _
  have hbody : ∀ c' : Cursor, ahead B c' = Value.itemsBytes true vs ++ 93 :: rest →
      c'.depth = c.depth - 1 → runAt (do pure (← itemsLoop item (← fuel) true #[]).toList) B c' =
        (.ok as, c'.skip (Value.itemsBytes true vs).length) := by
    intro c' hc' hdc'
    rw [runAt_itemsBody h hc' (by omega), runAt_pure]
  rw [runAt_bracketed hd1 hB' hbody (fun c' hc' => runAt_endSeq hc')]
  simp [Value.bytes]

/-- **An object reads back**, entry by entry, keys as written. -/
theorem reads_entries {item : Reader α} {es : List (String × Value)} {as : List (String × α)}
    (h : List.Forall₂ (fun kv ka => kv.1 = ka.1 ∧ Reads item kv.2 ka.2) es as) :
    Reads (entries item) (.obj es) as := by
  intro B c rest hB _ hd
  obtain ⟨hd1, hdi⟩ := depth_lt_of_obj hd
  have hB' : ahead B c = 123 :: Value.entriesBytes true es ++ 125 :: rest := by
    simpa [Value.bytes] using hB
  rw [entries, runAt_bind, runAt_parseWhitespace hB' (by decide)]
  show runAt (bracketed _ endMap) B c = _
  have hbody : ∀ c' : Cursor, ahead B c' = Value.entriesBytes true es ++ 125 :: rest →
      c'.depth = c.depth - 1 → runAt (do pure (← entriesLoop item (← fuel) true #[]).toList) B c' =
        (.ok as, c'.skip (Value.entriesBytes true es).length) := by
    intro c' hc' hdc'
    rw [runAt_entriesBody h hc' (by omega), runAt_pure]
  rw [runAt_bracketed hd1 hB' hbody (fun c' hc' => runAt_endMap hc')]
  simp [Value.bytes]

/-! ## Records -/

/-- Reading the values `vs` into a record, from field `i` on, takes it from
`a` to `b`: each value is read by the setter of its field. -/
def FieldsRead (setField : Nat → α → Reader α) : Nat → List Value → α → α → Prop
  | _, [], a, b => a = b
  | i, v :: vs, a, b => ∃ a', Reads (setField i a) v a' ∧ FieldsRead setField (i + 1) vs a' b

theorem idxOf?_getElem_of_nodup {fields : List String} (hnd : fields.Nodup) {i : Nat}
    (hi : i < fields.length) : fields.idxOf? fields[i] = some i := by
  rw [List.idxOf?_eq_some_iff]
  refine ⟨hi, rfl, fun j hj he => ?_⟩
  have := (hnd.getElem_inj_iff).mp he
  omega

/-- One round of the field loop: a field not seen yet, written under its
name, is read by its setter and the loop goes on after its value. -/
theorem runAt_fieldsFromEntries_fresh {fields : List String} (hnd : fields.Nodup)
    {setField : Nat → α → Reader α} {i : Nat} (hi : i < fields.length) (first : Bool)
    {seen : List Nat} (hnew : i ∉ seen) {a a' : α} {v : Value} (hva : Reads (setField i a) v a')
    {more : List UInt8} (hmore : Closes more)
    (hB : ahead B c = (if first then [] else [44]) ++ Text.encodeUtf8 (quoteData fields[i]) ++
      58 :: v.bytes ++ more)
    (hd : v.depth < c.depth) (n : Nat) :
    runAt (fieldsFromEntries fields setField (n + 1) first seen a) B c =
      runAt (fieldsFromEntries fields setField n false (i :: seen) a') B
        (c.skip ((if first then 0 else 1) + (Text.encodeUtf8 (quoteData fields[i])).length + 1 +
          v.bytes.length)) := by
  -- the separator, the field's name and the colon; then the field
  obtain ⟨h₁, h₂, h₃, hv⟩ := runAt_entryHead first fields[i] v more hB
  have hnew' : seen.contains i = false := by simpa using hnew
  rw [fieldsFromEntries, runAt_bind, h₁]
  dsimp only
  rw [if_pos rfl, runAt_bind, h₂]
  dsimp only
  rw [idxOf?_getElem_of_nodup hnd hi]
  simp only [hnew', Bool.false_eq_true, if_false]
  rw [runAt_bind, h₃]
  dsimp only
  rw [runAt_bind, hva B _ _ hv hmore (by simpa using hd)]
  dsimp only
  rw [skip_skip]

/-- **The field loop reads a record's fields back**, when they stand in the
order of the record's field names. -/
theorem runAt_fieldsFromEntries {fields : List String} (hnd : fields.Nodup)
    {setField : Nat → α → Reader α} {rest : List UInt8} (vs : List Value) :
    ∀ (i : Nat) (first : Bool) (seen : List Nat) (a b : α) (c : Cursor) (n : Nat),
      i + vs.length ≤ fields.length → (∀ j ∈ seen, j < i) → FieldsRead setField i vs a b →
      ahead B c = Value.entriesBytes first ((fields.drop i).zip vs) ++ 125 :: rest →
      Value.entriesDepth ((fields.drop i).zip vs) < c.depth →
      (Value.entriesBytes first ((fields.drop i).zip vs)).length < n →
      runAt (fieldsFromEntries fields setField n first seen a) B c =
        (.ok b, c.skip (Value.entriesBytes first ((fields.drop i).zip vs)).length) := by
  -- on the values still to read; every field seen so far comes before the next one
  induction vs with
  | nil =>
    intro i first seen a b c n _ _ hab hB _ hn
    obtain ⟨m, rfl⟩ : ∃ m, n = m + 1 := ⟨n - 1, by omega⟩
    simp only [List.zip_nil_right, Value.entriesBytes, List.nil_append] at hB ⊢
    have hab' : a = b := hab
    simp [fieldsFromEntries, runAt_bind, runAt_hasNextKey_end first hB, Cursor.skip, hab']
  | cons v vs ih =>
    intro i first seen a b c n hlen hseen hfr hB hd hn
    obtain ⟨a', hva, hfr'⟩ := hfr
    obtain ⟨m, rfl⟩ : ∃ m, n = m + 1 := ⟨n - 1, by omega⟩
    have hi : i < fields.length := by
      simp only [List.length_cons] at hlen
      omega
    have hzip : (fields.drop i).zip (v :: vs) = (fields[i], v) :: (fields.drop (i + 1)).zip vs := by
      rw [List.drop_eq_getElem_cons hi]
      rfl
    rw [hzip, entriesBytes_cons] at hB hn ⊢
    rw [hzip] at hd
    have hdv : v.depth < c.depth ∧ Value.entriesDepth ((fields.drop (i + 1)).zip vs) < c.depth := by
      simp only [Value.entriesDepth] at hd
      omega
    have hfield : ahead B c = (if first then [] else [44]) ++ Text.encodeUtf8 (quoteData fields[i]) ++
        58 :: v.bytes ++ (Value.entriesBytes false ((fields.drop (i + 1)).zip vs) ++ 125 :: rest) := by
      rw [hB]
      simp
    have hrest : ahead B (c.skip ((if first then 0 else 1) + (Text.encodeUtf8 (quoteData fields[i])).length +
        1 + v.bytes.length)) = Value.entriesBytes false ((fields.drop (i + 1)).zip vs) ++ 125 :: rest := by
      rw [← skip_skip, ahead_skip, (runAt_entryHead first fields[i] v _ hfield).2.2.2, List.drop_left]
    rw [runAt_fieldsFromEntries_fresh hnd hi first (fun h => lt_irrefl i (hseen i h)) hva
      (closes_entriesBytes_false _ rest) hfield hdv.1 m]
    rw [ih (i + 1) false (i :: seen) a' b _ m (by simp at hlen; omega)
      (fun j hj => (List.mem_cons.mp hj).elim (fun he => he ▸ Nat.lt_succ_self i)
        (fun hj => Nat.lt_succ_of_lt (hseen j hj)))
      hfr' hrest (by simpa using hdv.2) (by simp only [List.length_append, List.length_cons, length_sep] at hn; omega)]
    simp only [length_sep, skip_skip, List.length_append, List.length_cons]
    exact Prod.ext rfl (congrArg c.skip (by omega))

/-- **A record reads back from its fields**: an object whose keys are the
first field names in order, each value read by its field's setter. -/
theorem reads_record {name : String} {fields : List String} (hnd : fields.Nodup) {init a : α}
    {setField : Nat → α → Reader α} {vs : List Value} (hlen : vs.length ≤ fields.length)
    (h : FieldsRead setField 0 vs init a) : Reads (record name fields init setField) (.obj (fields.zip vs)) a := by
  intro B c rest hB _ hd
  obtain ⟨hd1, hdi⟩ := depth_lt_of_obj hd
  have hB' : ahead B c = 123 :: Value.entriesBytes true (fields.zip vs) ++ 125 :: rest := by
    simpa [Value.bytes] using hB
  rw [record, runAt_bind, runAt_parseWhitespace hB' (by decide)]
  show runAt (bracketed _ endMap) B c = _
  have hbody : ∀ c' : Cursor, ahead B c' = Value.entriesBytes true (fields.zip vs) ++ 125 :: rest →
      c'.depth = c.depth - 1 → runAt (do fieldsFromEntries fields setField (← fuel) true [] init) B c' =
        (.ok a, c'.skip (Value.entriesBytes true (fields.zip vs)).length) := by
    intro c' hc' hdc'
    rw [runAt_bind, runAt_fuel]
    exact runAt_fieldsFromEntries hnd vs 0 true [] init a c' _ (by omega) (by simp) h
      (by simpa using hc') (by simpa [hdc'] using hdi)
      (by simp only [List.drop_zero, hc', List.length_append, List.length_cons]; omega)
  rw [runAt_bracketed hd1 hB' hbody (fun c' hc' => runAt_endMap hc')]
  simp [Value.bytes]


/-! ## The value reader -/

theorem runAt_value_digit (f : Nat) {b : UInt8} {r : List UInt8} (h : ahead B c = b :: r)
    (hb : 48 ≤ b.toNat ∧ b.toNat ≤ 57) :
    runAt (value (f + 1)) B c = runAt (parseNumber true >>= fun n => pure n.toValue) B c := by
  have hnb : NotBlank b := by
    refine ⟨?_, ?_, ?_, ?_⟩ <;> intro he <;> rw [he] at hb <;> simp at hb
  have hd : isDigit b = true := by
    simp [isDigit, UInt8.le_iff_toNat_le]
    omega
  rw [value, runAt_bind, runAt_parseWhitespace h hnb]
  dsimp only
  -- a digit is none of the bytes that start the other kinds of value
  split <;> simp_all

theorem reads_value_null (f : Nat) : Reads (value (f + 1)) .null .null := by
  intro B c rest hB _ _
  rw [Value.bytes_null] at hB ⊢
  have hs : ahead B (c.skip 1) = [117, 108, 108] ++ rest := by simp [hB]
  simp [value, runAt_bind, runAt_map, runAt_parseWhitespace hB (by decide), runAt_parseIdent _ hs]

theorem reads_value_bool (f : Nat) (b : Bool) : Reads (value (f + 1)) (.bool b) (.bool b) := by
  intro B c rest hB _ _
  rw [Value.bytes_bool] at hB ⊢
  cases b with
  | false =>
    have hs : ahead B (c.skip 1) = [97, 108, 115, 101] ++ rest := by simp [hB]
    simp [value, runAt_bind, runAt_map, runAt_parseWhitespace hB (by decide), runAt_parseIdent _ hs]
  | true =>
    have hs : ahead B (c.skip 1) = [114, 117, 101] ++ rest := by simp [hB]
    simp [value, runAt_bind, runAt_map, runAt_parseWhitespace hB (by decide), runAt_parseIdent _ hs]

/-- An integer within the 64-bit ranges reads back: a natural number as its
digits, a negative one as a minus sign and the digits of its magnitude. -/
theorem reads_value_int (f : Nat) {n : Int} (lo : -(2 ^ 63 : Int) ≤ n) (hi : n ≤ (u64Max : Int)) :
    Reads (value (f + 1)) (.int n) (.int n) := by
  intro B c rest hB hr _
  have hu : u64Max = 18446744073709551615 := by decide
  cases n with
  | ofNat m =>
    have hm : m ≤ u64Max := by simp [hu] at hi ⊢; omega
    have ht : toString (Int.ofNat m) = decimalDigits m := rfl
    rw [Value.bytes, ht] at hB ⊢
    obtain ⟨d, r, hds, hd, -⟩ := toList_decimalDigits m
    have hdig : 48 ≤ d.toNat ∧ d.toNat ≤ 57 := by
      simp [Char.isDigit] at hd
      exact ⟨hd.1, hd.2⟩
    obtain ⟨hh, -, hval, -⟩ := ahead_digit hd (by rw [hB, Text.encodeUtf8, hds])
    have hB' : ahead B c = Text.encodeUtf8 (toString m) ++ rest := hB
    have hend : Closes (ahead B (c.skip (Text.encodeUtf8 (toString m)).length)) := by
      simpa [hB'] using hr
    rw [runAt_value_digit f hh (by rw [hval]; exact hdig), runAt_bind,
      runAt_parseNumber_nat true hm hB' hr.ends_number.1, runAt_parseNumberTail hend]
    rfl
  | negSucc m =>
    have hm : m + 1 ≤ u64Max := by rw [Int.negSucc_eq] at lo; rw [hu]; omega
    have hm' : m + 1 ≤ Nat.pow 2 63 := by rw [Int.negSucc_eq] at lo; simp; omega
    have ht : toString (Int.negSucc m) = "-" ++ toString (m + 1) := rfl
    have hminus : Text.encodeUtf8 "-" = [45] := by decide
    rw [Value.bytes, ht, Text.encodeUtf8_append, hminus] at hB ⊢
    have hs : ahead B (c.skip 1) = Text.encodeUtf8 (toString (m + 1)) ++ rest := by simp [hB]
    simp [value, runAt_bind, runAt_map, runAt_parseWhitespace hB (by decide),
      runAt_parseNumber_nat false hm hs hr.ends_number.1]
    rw [runAt_parseNumberTail (by
      rw [ahead_skip, hB, List.append_assoc, List.singleton_append, Nat.add_comm, List.drop_succ_cons]
      show Closes (List.drop (Text.encodeUtf8 (toString (m + 1))).length _)
      rw [List.drop_left]
      exact hr)]
    simp [hm', Int.negSucc_eq, Nat.add_comm, Number.toValue]

/-- **A double written with a point reads back** when its data text is the
digits of a natural number, a point and further digits, and the reader's one
rounding of all the digits over the power of ten the point stands for gives
the double again. -/
theorem readsBack_of_decimal {x : Binary64} {m : Nat} {cs : List Char}
    (htext : x.dataText = decimalDigits m ++ "." ++ String.ofList cs)
    (hd : ∀ ch ∈ cs, ch.isDigit) (hne : cs ≠ []) (hlen : cs.length ≤ 308)
    (hmax : Nat.ofDigitChars 10 cs m ≤ u64Max) (hfin : x.isFinite)
    (hround : ((Binary64.ofNat (Nat.ofDigitChars 10 cs m)).div (pow10 cs.length)).withSign false = x) :
    ReadsBack x := by
  intro f B c rest hB hr _
  have hm : m ≤ u64Max := le_trans (le_ofDigitChars cs m) hmax
  have hbytes : (Value.float x).bytes =
      Text.encodeUtf8 (decimalDigits m) ++ 46 :: cs.flatMap Text.encodeChar := by
    have hpt : Text.encodeChar '.' = [46] := by decide
    simp [Value.bytes, htext, Text.encodeUtf8, hpt]
  rw [hbytes] at hB ⊢
  -- the integer part starts with a digit, so the value reader goes to numbers
  obtain ⟨d, r, hds, hdd, -⟩ := toList_decimalDigits m
  obtain ⟨hh, -, hval, -⟩ := ahead_digit hdd (by rw [hB, Text.encodeUtf8, hds, List.append_assoc])
  have hdig : 48 ≤ d.toNat ∧ d.toNat ≤ 57 := by
    simp [Char.isDigit] at hdd
    exact ⟨hdd.1, hdd.2⟩
  have hB' : ahead B c = Text.encodeUtf8 (toString m) ++ 46 :: (cs.flatMap Text.encodeChar ++ rest) := by
    rw [hB]
    simp
    rfl
  have hpoint : ahead B (c.skip (Text.encodeUtf8 (toString m)).length) =
      46 :: (cs.flatMap Text.encodeChar ++ rest) := by
    rw [ahead_skip, hB', List.drop_left]
  rw [runAt_value_digit f hh (by rw [hval]; exact hdig), runAt_bind,
    runAt_parseNumber_nat true hm hB' rfl, runAt_parseDecimal true cs hd hne hlen hpoint hr m hmax]
  have hlenb : (Text.encodeUtf8 (decimalDigits m) ++ 46 :: cs.flatMap Text.encodeChar).length =
      (Text.encodeUtf8 (decimalDigits m)).length + (1 + cs.length) := by
    rw [List.length_append, List.length_cons, length_flatMap_encodeChar_of_isDigit hd]
    omega
  have ht : toString m = decimalDigits m := rfl
  rw [skip_skip, ht, hlenb, Bool.not_true, hround]
  simp [Number.toValue, Value.ofDouble, hfin]

/-- One and a half reads back from `1.5`. -/
theorem readsBack_one_and_a_half : ReadsBack (Binary64.ofRatio false 3 2 0) := by
  have htext : (Binary64.ofRatio false 3 2 0).dataText = decimalDigits 1 ++ "." ++ String.ofList ['5'] := by
    decide +kernel
  exact readsBack_of_decimal htext (by simp) (by simp) (by simp) (by decide +kernel) (by decide +kernel)
    (by decide +kernel)

theorem reads_value_str (f : Nat) (s : String) : Reads (value (f + 1)) (.str s) (.str s) := by
  intro B c rest hB _ _
  simp only [Value.bytes, encodeUtf8_quoteData, List.cons_append, List.append_assoc] at hB ⊢
  have hs : ahead B (c.skip 1) = s.toList.flatMap quotedBytes ++ 34 :: rest := by simp [hB]
  simp [value, runAt_bind, runAt_parseWhitespace hB (by decide), runAt_parseStr s hs, runAt_map]
  exact congrArg c.skip (by omega)

/-- An array reads back when each of its items does, one level down. -/
theorem reads_value_arr {f : Nat} {items : List Value}
    (hitems : List.Forall₂ (Reads (value f)) items items) :
    Reads (value (f + 1)) (.arr items) (.arr items) := by
  intro B c rest hB _ hd
  obtain ⟨hd1, hd2⟩ := depth_lt_of_arr hd
  have hB' : ahead B c = 91 :: Value.itemsBytes true items ++ 93 :: rest := by
    simpa [Value.bytes] using hB
  rw [value, runAt_bind, runAt_parseWhitespace hB' (by decide)]
  show runAt (bracketed _ endSeq) B c = _
  have hbody : ∀ c' : Cursor, ahead B c' = Value.itemsBytes true items ++ 93 :: rest →
      c'.depth = c.depth - 1 →
      runAt (do pure (Value.arr (← itemsLoop (value f) (← Json.fuel) true #[]).toList)) B c' =
        (.ok (.arr items), c'.skip (Value.itemsBytes true items).length) := by
    intro c' hc' hdc'
    rw [runAt_itemsBody hitems hc' (by omega), runAt_pure]
  rw [runAt_bracketed hd1 hB' hbody (fun c' hc' => runAt_endSeq hc')]
  simp [Value.bytes]

/-- An object with distinct keys reads back when each of its values does, one
level down: merging repeated keys then changes nothing. -/
theorem reads_value_obj {f : Nat} {entries : List (String × Value)}
    (keys : (entries.map Prod.fst).Nodup)
    (hentries : List.Forall₂ (fun kv ka => kv.1 = ka.1 ∧ Reads (value f) kv.2 ka.2) entries entries) :
    Reads (value (f + 1)) (.obj entries) (.obj entries) := by
  intro B c rest hB _ hd
  obtain ⟨hd1, hd2⟩ := depth_lt_of_obj hd
  have hB' : ahead B c = 123 :: Value.entriesBytes true entries ++ 125 :: rest := by
    simpa [Value.bytes] using hB
  rw [value, runAt_bind, runAt_parseWhitespace hB' (by decide)]
  show runAt (bracketed _ endMap) B c = _
  have hbody : ∀ c' : Cursor, ahead B c' = Value.entriesBytes true entries ++ 125 :: rest →
      c'.depth = c.depth - 1 →
      runAt (do
        let kvs ← entriesLoop (value f) (← Json.fuel) true #[]
        pure (Value.obj (KeyedList.ofList kvs.toList))) B c' =
        (.ok (.obj entries), c'.skip (Value.entriesBytes true entries).length) := by
    intro c' hc' hdc'
    rw [runAt_entriesBody hentries hc' (by omega), runAt_pure, List.toList_toArray,
      KeyedList.ofList_of_nodup keys]
  rw [runAt_bracketed hd1 hB' hbody (fun c' hc' => runAt_endMap hc')]
  simp [Value.bytes]

/-- **The value reader reads a storable value back** from its compact text,
given fuel for its nesting and doubles that read back. -/
theorem reads_value {v : Value} (hs : v.Storable) :
    (∀ x ∈ v.doubles, ReadsBack x) → ∀ f, v.depth ≤ f → Reads (value (f + 1)) v v := by
  -- on the value: arrays and objects read their parts with one less fuel
  induction hs with
  | null => exact fun _ f _ => reads_value_null f
  | bool b => exact fun _ f _ => reads_value_bool f b
  | int lo hi => exact fun _ f _ => reads_value_int f lo hi
  | float x => exact fun hf f _ => hf x (by simp [Value.doubles]) f
  | str s => exact fun _ f _ => reads_value_str f s
  | @arr items each ih =>
    intro hf f hfuel
    obtain ⟨g, rfl⟩ : ∃ g, f = g + 1 := ⟨f - 1, by simp only [Value.depth] at hfuel; omega⟩
    refine reads_value_arr (List.forall₂_same.mpr fun v hv => ih v hv
      (fun x hx => hf x (Value.mem_doubles_of_mem_items hv hx)) g ?_)
    have := Value.depth_le_itemsDepth hv
    simp only [Value.depth] at hfuel
    omega
  | @obj entries keys each ih =>
    intro hf f hfuel
    obtain ⟨g, rfl⟩ : ∃ g, f = g + 1 := ⟨f - 1, by simp only [Value.depth] at hfuel; omega⟩
    refine reads_value_obj keys (List.forall₂_same.mpr fun kv hkv => ⟨rfl, ih kv hkv
      (fun x hx => hf x (Value.mem_doubles_of_mem_entries hkv hx)) g ?_⟩)
    have := Value.depth_le_entriesDepth hkv
    simp only [Value.depth] at hfuel
    omega

/-! ## The primitives documents are read with -/

theorem reads_optional_null (x : Reader α) : Reads (optional x) .null none := by
  intro B c rest hB _ _
  rw [Value.bytes_null] at hB ⊢
  have hs : ahead B (c.skip 1) = [117, 108, 108] ++ rest := by simp [hB]
  simp [optional, runAt_bind, runAt_map, runAt_parseWhitespace hB (by decide), runAt_parseIdent _ hs]

/-- A value other than null is read by the reader it is optional to. -/
theorem reads_optional_some {x : Reader α} {v : Value} {a : α} (hv : v ≠ .null) (h : Reads x v a) :
    Reads (optional x) v (some a) := by
  intro B c rest hB hr hd
  obtain ⟨b, r, hbytes, ⟨hnb, -⟩, hn⟩ := v.bytes_cons
  have hb : ahead B c = b :: (r ++ rest) := by rw [hB, hbytes, List.cons_append]
  have h110 : b ≠ 110 := fun he => hv (hn he)
  rw [optional, runAt_bind, runAt_parseWhitespace hb hnb]
  dsimp only
  -- only an `n` starts null
  split
  · simp_all
  · rw [runAt_map, h B c rest hB hr hd]

theorem reads_text (s : String) : Reads text (.str s) s := by
  intro B c rest hB _ _
  simp only [Value.bytes, encodeUtf8_quoteData, List.cons_append, List.append_assoc] at hB ⊢
  have hs : ahead B (c.skip 1) = s.toList.flatMap quotedBytes ++ 34 :: rest := by simp [hB]
  simp [text, runAt_bind, runAt_parseWhitespace hB (by decide), runAt_parseStr s hs]
  exact congrArg c.skip (by omega)

theorem reads_scalarText (s : String) : Reads scalarText (.str s) (some s) := by
  intro B c rest hB _ _
  simp only [Value.bytes, encodeUtf8_quoteData, List.cons_append, List.append_assoc] at hB ⊢
  have hs : ahead B (c.skip 1) = s.toList.flatMap quotedBytes ++ 34 :: rest := by simp [hB]
  simp [scalarText, runAt_bind, runAt_map, runAt_parseWhitespace hB (by decide), runAt_parseStr s hs]
  exact congrArg c.skip (by omega)

/-- **The data values of documents read back**: the decoder's value reader,
with the nesting the cursor allows as its fuel. -/
theorem reads_decoder_value {v : Value} (hs : v.Storable) (hf : ∀ x ∈ v.doubles, ReadsBack x) :
    Reads decoder.value v v := by
  intro B c rest hB hr hd
  show runAt (get >>= fun c => value (c.depth + 1)) B c = _
  rw [runAt_bind, runAt_get]
  exact reads_value hs hf c.depth (by omega) B c rest hB hr hd

end Json

end OpenApiLint
