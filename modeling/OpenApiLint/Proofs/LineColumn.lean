import Mathlib
import OpenApiLint.Document.Parse
/-!
# From a line and a column back to a byte offset

A JSON reader says where it stopped as a line, counted from one, and a
column, the number of bytes since the last line feed before that point.
`offsetOf` turns such a pair back into a byte offset: it walks the lines of
the text, each with its line feed, adds up the lengths of the lines before,
and adds the column less one, clamped to the line.

For a position of byte `i` this gives back `i - 1`, or `i` itself at
column zero: the column points one past the byte it counts.  This holds at
every index of the text, also after a last line feed, where the line lies
past the last line of the walk.  And the offset never passes the end of the
text, whatever line and column it is given, so the clamp that reading puts
on it never changes it.

The proof cuts the text before byte `i` at its last line feed: whole lines
first, whose lines the walk steps over, then the start of the line that
holds `i`, which the line begun there extends.

## Main definitions

* `lineStart` — where the line holding an index starts.

## Main statements

* `flatten_linesWithBreaks` — the lines joined give back the text.
* `offsetOf_le_length` — the offset lies within the text.
* `offsetOf_append_lineStart` — the offset of a column of the line that
  follows whole lines.
* `offsetOf_lineColumn` — the offset of the line and column of an index.
* `Json.positionOf_eq` — the reader reports that line and column.
* `readIn_json_error_offset` — where a JSON syntax error points.
-/

namespace OpenApiLint

/-! ## Lines -/

/-- The lines joined give back the text, after the line begun so far. -/
theorem flatten_linesWithBreaks (bs cur : List UInt8) :
    (linesWithBreaks bs cur).flatten = cur.reverse ++ bs := by
  induction bs generalizing cur with
  | nil => cases cur <;> simp [linesWithBreaks]
  | cons b bs ih => by_cases hb : b = 10 <;> simp [linesWithBreaks, hb, ih]

/-- Bytes without a line feed extend the line begun so far. -/
theorem linesWithBreaks_append_of_not_mem {l : List UInt8} (hl : 10 ∉ l) (rest cur : List UInt8) :
    linesWithBreaks (l ++ rest) cur = linesWithBreaks rest (l.reverse ++ cur) := by
  induction l generalizing cur with
  | nil => rfl
  | cons b bs ih =>
    have hb : b ≠ 10 := fun h => hl (h ▸ List.mem_cons_self)
    rw [List.cons_append, linesWithBreaks, if_neg hb, ih (fun h => hl (List.mem_cons_of_mem b h))]
    simp

/-- The first line starts with the line begun so far; there is no line only
when nothing was begun and nothing follows. -/
theorem linesWithBreaks_head (bs cur : List UInt8) :
    (linesWithBreaks bs cur = [] ∧ cur = []) ∨
      ∃ l ls, linesWithBreaks bs cur = l :: ls ∧ cur.length ≤ l.length := by
  induction bs generalizing cur with
  | nil =>
    cases cur with
    | nil => simp [linesWithBreaks]
    | cons c cs => simp [linesWithBreaks]
  | cons b bs ih =>
    rw [linesWithBreaks]
    split
    · exact .inr ⟨_, _, rfl, by simp⟩
    · rcases ih (b :: cur) with ⟨-, hnil⟩ | ⟨l, ls, hl, hlen⟩
      · simp at hnil
      · exact .inr ⟨l, ls, hl, by simp at hlen; omega⟩

/-- Bytes that end with a line feed keep their lines when more follow. -/
theorem linesWithBreaks_append {pre : List UInt8} (hpre : pre.getLast? = some 10)
    (rest cur : List UInt8) :
    linesWithBreaks (pre ++ rest) cur = linesWithBreaks pre cur ++ linesWithBreaks rest := by
  induction pre generalizing cur with
  | nil => simp at hpre
  | cons b bs ih =>
    by_cases hbs : bs = []
    · -- the line feed is `b` itself, and ends the line begun so far
      have hb : b = 10 := by simpa [hbs] using hpre
      simp [linesWithBreaks, hb, hbs]
    · have hlast : bs.getLast? = some 10 := List.getLast?_cons_of_ne_nil hbs ▸ hpre
      rw [List.cons_append, linesWithBreaks, linesWithBreaks]
      split
      · rw [ih hlast, List.cons_append]
      · exact ih hlast (b :: cur)

/-- Bytes that end with a line feed have one line per line feed. -/
theorem length_linesWithBreaks {pre : List UInt8} (hpre : pre.getLast? = some 10) (cur : List UInt8) :
    (linesWithBreaks pre cur).length = pre.count 10 := by
  induction pre generalizing cur with
  | nil => simp at hpre
  | cons b bs ih =>
    by_cases hbs : bs = []
    · have hb : b = 10 := by simpa [hbs] using hpre
      simp [linesWithBreaks, hb, hbs]
    · have hlast : bs.getLast? = some 10 := List.getLast?_cons_of_ne_nil hbs ▸ hpre
      rw [linesWithBreaks]
      split
      · next hb => rw [List.length_cons, ih hlast, hb, List.count_cons_self]
      · next hb => rw [ih hlast, List.count_cons_of_ne hb]

/-! ## The walk over the lines -/

section Walk

variable (line column : Nat)

/-- Lines before the wanted one are stepped over, their lengths added up. -/
theorem offsetOf.go_append (ls₁ ls₂ : List (List UInt8)) (k acc : Nat)
    (h : k + ls₁.length ≤ line) :
    offsetOf.go line column (ls₁ ++ ls₂) k acc =
      offsetOf.go line column ls₂ (k + ls₁.length) (acc + ls₁.flatten.length) := by
  induction ls₁ generalizing k acc with
  | nil => simp
  | cons l ls ih =>
    rw [List.cons_append, offsetOf.go, if_neg (by simp at h; omega), ih _ _ (by simp at h; omega)]
    simp only [List.length_cons, List.flatten_cons, List.length_append]
    congr 1 <;> omega

/-- The walk adds no more than the lengths of the lines it is given. -/
theorem offsetOf.go_le (ls : List (List UInt8)) (k acc : Nat) :
    offsetOf.go line column ls k acc ≤ acc + ls.flatten.length := by
  induction ls generalizing k acc with
  | nil => simp [offsetOf.go]
  | cons l ls ih =>
    rw [offsetOf.go]
    split
    · simp only [List.flatten_cons, List.length_append]
      omega
    · have := ih (k + 1) (acc + l.length)
      simp only [List.flatten_cons, List.length_append]
      omega

end Walk

/-- **The offset lies within the text**, whatever the line and column. -/
theorem offsetOf_le_length (bytes : List UInt8) (line column : Nat) :
    offsetOf bytes line column ≤ bytes.length := by
  unfold offsetOf
  split
  · exact Nat.zero_le _
  · simpa [flatten_linesWithBreaks] using offsetOf.go_le line column (linesWithBreaks bytes) 1 0

/-- On the line that follows whole lines `pre`, a column within its bytes
`post` before any line feed lands on the byte before it: the offset is the
line's start plus the column less one. -/
theorem offsetOf_append_lineStart {pre post : List UInt8}
    (hpre : pre = [] ∨ pre.getLast? = some 10) (hpost : 10 ∉ post) (after : List UInt8) :
    offsetOf (pre ++ post ++ after) (1 + pre.count 10) post.length =
      pre.length + (post.length - 1) := by
  -- the walk steps over the lines of `pre` and stops at the first line after
  have hwalk : offsetOf.go (1 + pre.count 10) post.length (linesWithBreaks (pre ++ post ++ after)) 1 0 =
      offsetOf.go (1 + pre.count 10) post.length (linesWithBreaks (post ++ after))
        (1 + pre.count 10) pre.length := by
    rcases hpre with rfl | hpre
    · simp
    · rw [List.append_assoc, linesWithBreaks_append hpre, offsetOf.go_append _ _ _ _ _ _
        (by rw [length_linesWithBreaks hpre]), length_linesWithBreaks hpre,
        flatten_linesWithBreaks]
      simp
  rw [offsetOf, if_neg (by omega), hwalk, linesWithBreaks_append_of_not_mem hpost, List.append_nil]
  rcases linesWithBreaks_head after post.reverse with ⟨hnil, hrev⟩ | ⟨l, ls, hl, hlen⟩
  · -- nothing of the line was begun: the column is zero
    rw [hnil, List.reverse_eq_nil_iff.mp hrev]
    simp [offsetOf.go]
  · rw [hl, offsetOf.go, if_pos rfl]
    simp only [List.length_reverse] at hlen
    omega

/-! ## The start of a line -/

/-- Where the line holding byte index `i` starts: the index just after the
last line feed before `i`, or `0` when there is none.  Dropping, from the end
of the bytes before `i`, those that are not line feeds leaves the bytes up to
that start. -/
def lineStart (bytes : List UInt8) (i : Nat) : Nat :=
  ((bytes.take i).reverse.dropWhile (· != 10)).length

example : lineStart [97, 10, 98, 99] 3 = 2 ∧ lineStart [97, 98] 2 = 0 := by decide

/-- The bytes before an index split at the start of its line: whole lines,
then bytes without a line feed. -/
theorem exists_split_lineStart (bytes : List UInt8) (i : Nat) :
    ∃ pre post, bytes.take i = pre ++ post ∧ (pre = [] ∨ pre.getLast? = some 10) ∧ 10 ∉ post ∧
      lineStart bytes i = pre.length := by
  refine ⟨((bytes.take i).reverse.dropWhile (· != 10)).reverse,
    ((bytes.take i).reverse.takeWhile (· != 10)).reverse, ?_, ?_, ?_, by simp [lineStart]⟩
  · rw [← List.reverse_append, List.takeWhile_append_dropWhile, List.reverse_reverse]
  · rw [List.getLast?_reverse]
    by_cases hnil : (bytes.take i).reverse.dropWhile (· != 10) = []
    · exact .inl (by simp [hnil])
    · -- the last byte kept is the line feed the dropping stopped at
      have hstop := List.head_dropWhile_not (· != 10) hnil
      refine .inr ?_
      rw [List.head?_eq_some_head hnil]
      simpa using hstop
  · intro hmem
    have := List.mem_takeWhile_imp (List.mem_reverse.mp hmem)
    simp at this

/-- Cut at the start of its line, an index is read back from its line and
column. -/
theorem offsetOf_take_lineStart (bytes : List UInt8) (i : Nat) (hi : i ≤ bytes.length) :
    offsetOf bytes (1 + (bytes.take i).count 10) (i - lineStart bytes i) =
      if 1 ≤ i - lineStart bytes i then i - 1 else i := by
  obtain ⟨pre, post, hsplit, hpre, hpost, hstart⟩ := exists_split_lineStart bytes i
  have hlen : pre.length + post.length = i := by
    rw [← List.length_append, ← hsplit, List.length_take, Nat.min_eq_left hi]
  have hbytes : bytes = pre ++ post ++ bytes.drop i := by
    rw [← hsplit, List.take_append_drop]
  have hline : (bytes.take i).count 10 = pre.count 10 := by
    rw [hsplit, List.count_append, List.count_eq_zero.mpr hpost, Nat.add_zero]
  have hcol : i - lineStart bytes i = post.length := by omega
  rw [hline, hcol]
  nth_rewrite 1 [hbytes]
  rw [offsetOf_append_lineStart hpre hpost]
  split <;> omega

/-! ## The bytes of a text -/

/-- The list of a byte array is built from the front, reversed at the end. -/
theorem toList_loop_eq (bs : ByteArray) (i : Nat) (r : List UInt8) :
    ByteArray.toList.loop bs i r = r.reverse ++ bs.data.toList.drop i := by
  fun_induction ByteArray.toList.loop bs i r with
  | case1 i r hlt ih =>
    have hi : i < bs.data.toList.length := by simpa using hlt
    have hdrop : bs.data.toList.drop i = bs.data.toList[i] :: bs.data.toList.drop (i + 1) :=
      List.drop_eq_getElem_cons hi
    have hget : bs.get! i = bs.data.toList[i] := by
      simp [ByteArray.get!, getElem!_pos bs.data i (by simpa using hlt)]
    rw [ih, hdrop, hget]
    simp
  | case2 i r hge =>
    simp [List.drop_eq_nil_of_le (by simpa using hge : bs.data.toList.length ≤ i)]

/-- The list of a byte array is its bytes in order. -/
theorem toList_eq_data_toList (bs : ByteArray) : bs.toList = bs.data.toList := by
  rw [ByteArray.toList, toList_loop_eq]
  simp

/-- The bytes of a text are as many as its UTF-8 size. -/
theorem length_toList_toUTF8 (content : String) :
    content.toUTF8.toList.length = content.utf8ByteSize := by
  simp [toList_eq_data_toList]

/-! ## Reading back a position -/

/-- **Reading back a line and a column.**  Take any byte index `i` of a
text, its line (one more than the line feeds before `i`) and its column (`i`
less the start of its line).  The offset of that line and column is `i - 1`,
or `i` at column zero.  And for every line and column the offset lies within
the text. -/
theorem offsetOf_lineColumn (content : String) (i : Nat) (hi : i ≤ content.utf8ByteSize) :
    offsetOf content.toUTF8.toList (1 + (content.toUTF8.toList.take i).count 10)
          (i - lineStart content.toUTF8.toList i) =
        (if 1 ≤ i - lineStart content.toUTF8.toList i then i - 1 else i) ∧
      ∀ line column, offsetOf content.toUTF8.toList line column ≤ content.utf8ByteSize := by
  rw [← length_toList_toUTF8] at hi ⊢
  exact ⟨offsetOf_take_lineStart _ i hi, offsetOf_le_length _⟩

/-- Just after a last line feed, ending a line in a carriage return: the
line lies past the last line of the walk, and the offset is the end. -/
theorem offsetOf_lineColumn_after_lineFeed :
    3 ≤ "a\r\n".utf8ByteSize ∧ offsetOf "a\r\n".toUTF8.toList 2 0 = 3 ∧
      ∀ line column, offsetOf "a\r\n".toUTF8.toList line column ≤ "a\r\n".utf8ByteSize := by
  have hbytes : "a\r\n".toUTF8.toList = [97, 13, 10] := by decide +kernel
  have h := offsetOf_lineColumn "a\r\n" 3 (by decide)
  have hstart : lineStart [97, 13, 10] 3 = 3 := by decide
  simp only [hbytes] at h ⊢
  exact ⟨by decide, by simpa [hstart] using h.1, h.2⟩

/-! ## Where a syntax error points -/

/-- A left fold that counts line feeds, keeps the index just after the last
one and counts bytes. -/
theorem foldl_lineCount (step : Nat × Nat × Nat → UInt8 → Nat × Nat × Nat)
    (hfeed : ∀ line start k, step (line, start, k) 10 = (line + 1, k + 1, k + 1))
    (hbyte : ∀ line start k b, b ≠ 10 → step (line, start, k) b = (line, start, k + 1))
    (l : List UInt8) :
    l.foldl step (1, 0, 0) = (1 + l.count 10, (l.reverse.dropWhile (· != 10)).length, l.length) := by
  induction l using List.reverseRecOn with
  | nil => rfl
  | append_singleton l b ih =>
    rw [List.foldl_append, ih, List.foldl_cons, List.foldl_nil]
    by_cases hb : b = 10
    · subst hb
      rw [hfeed]
      simp [Nat.add_assoc]
    · rw [hbyte _ _ _ _ hb]
      simp [hb, List.count_append]

/-- The reader reports the line and the column of an index as above: one
more than the line feeds before it, and the bytes since the last of them. -/
theorem Json.positionOf_eq (bytes : ByteArray) (i : Nat) :
    Json.positionOf bytes i =
      (1 + (bytes.toList.take i).count 10, i - lineStart bytes.toList i) := by
  rw [Json.positionOf, foldl_lineCount]
  · simp [lineStart, toList_eq_data_toList]
  · intro line start k
    rfl
  · intro line start k b hb
    exact if_neg hb

/-- **Where a JSON syntax error points.**  When the reader stops with an
error it reports at byte `i`, the offset of the syntax error is `i - 1`, or
`i` at column zero; the clamp to the text's length never applies. -/
theorem readIn_json_error_offset {name content : String} {e : Json.Error} {i : Nat}
    (hread : Json.readDocument content = .error e)
    (hpos : e.position = some (Json.positionOf content.toUTF8 i)) (hi : i ≤ content.utf8ByteSize) :
    readIn name content .json = .error (.malformed name .json e.message
      (if 1 ≤ (Json.positionOf content.toUTF8 i).2 then i - 1 else i)) := by
  unfold readIn
  rw [hread]
  simp only [hpos, Option.getD_some, Json.positionOf_eq]
  rw [Nat.min_eq_left (length_toList_toUTF8 content ▸ offsetOf_le_length _ _ _),
    offsetOf_take_lineStart _ i (by rw [length_toList_toUTF8]; exact hi)]

/-- An object left open at the end of its line: the reader stops at line 2,
column 0, and the error points at the end of the text. -/
theorem readIn_json_error_offset_unclosed_object :
    let e : Json.Error := ⟨Json.eofWhileParsingObject, some (2, 0)⟩
    Json.readDocument "\x7b\n" = .error e ∧ e.position = some (Json.positionOf "\x7b\n".toUTF8 2) ∧
      2 ≤ "\x7b\n".utf8ByteSize ∧
      readIn "api.json" "\x7b\n" .json = .error (.malformed "api.json" .json e.message 2) := by
  intro e
  have hread : Json.readDocument "\x7b\n" = .error e := by
    -- the kernel runs the reader; errors have no decidable equality, so compare their parts
    have hm : ((Json.readDocument "\x7b\n").mapError fun e => (e.text, e.position)).map (fun _ => ()) =
        .error (Json.eofWhileParsingObject, some (2, 0)) := by decide +kernel
    cases h : Json.readDocument "\x7b\n" with
    | ok d => rw [h] at hm; cases hm
    | error e' =>
      rw [h] at hm
      simp only [Except.mapError, Except.map, Except.error.injEq, Prod.mk.injEq] at hm
      obtain ⟨htext, hposition⟩ := hm
      cases e'
      simp only at htext hposition
      rw [htext, hposition]
  have hat : Json.positionOf "\x7b\n".toUTF8 2 = (2, 0) := by decide +kernel
  have hpos : e.position = some (Json.positionOf "\x7b\n".toUTF8 2) := by rw [hat]
  have hi : 2 ≤ "\x7b\n".utf8ByteSize := by decide
  refine ⟨hread, hpos, hi, ?_⟩
  rw [readIn_json_error_offset hread hpos hi, hat]
  rfl

end OpenApiLint
