import Mathlib
import OpenApiLint.Proofs.RoundTrip
/-!
# The steps of parsing, in order

`parseDocument` decides in three steps, and the first that fails names the
error: a text of Unicode white space only is empty; a text that does not read
in its notation is malformed; a document without a version, or with one
whose major part is not `3`, is refused.  Each outcome is shown here to
happen exactly when its step is the first to fail.

The version test keeps the text before the first `.` and compares it with
`3`.  That is the prefix law "exactly `3`, or `3.` followed by anything"
(`MajorThree`), for every text: the first piece of a split is what comes
before the first separator, and it is the whole text when there is none.

## Main definitions

* `Text.whiteSpaceCodes` — the code points of Unicode `White_Space`.
* `MajorThree` — a version whose major part is `3`.
* `ParsesInOrder` — the five outcomes of parsing and when each happens.

## Main statements

* `Text.isWhiteSpace_iff` — the white space test is Unicode `White_Space`.
* `supportedVersion_iff` — the version test is the prefix law.
* `parseDocument_parsesInOrder` — parsing decides in order.
-/

namespace OpenApiLint

/-! ## Unicode white space -/

namespace Text

/-- The code points of Unicode `White_Space`: TAB, LF, VT, FF, CR, space,
NEL, the no-break space, the Ogham space mark, U+2000 to U+200A, the line and
paragraph separators, the narrow no-break space, the medium mathematical
space and the ideographic space. -/
def whiteSpaceCodes : List Nat :=
  [0x09, 0x0A, 0x0B, 0x0C, 0x0D, 0x20, 0x85, 0xA0, 0x1680,
    0x2000, 0x2001, 0x2002, 0x2003, 0x2004, 0x2005, 0x2006, 0x2007, 0x2008, 0x2009, 0x200A,
    0x2028, 0x2029, 0x202F, 0x205F, 0x3000]

theorem isWhiteSpace_iff (c : Char) : isWhiteSpace c = true ↔ c.toNat ∈ whiteSpaceCodes := by
  simp only [isWhiteSpace, Bool.or_eq_true, Bool.and_eq_true, decide_eq_true_eq, beq_iff_eq,
    or_assoc]
  generalize c.toNat = n
  constructor
  · rintro (⟨hlo, hhi⟩ | rfl | rfl | rfl | rfl | ⟨hlo, hhi⟩ | rfl | rfl | rfl | rfl | rfl)
    -- the two ranges are cut into their code points
    all_goals (try interval_cases n) <;> simp [whiteSpaceCodes]
  · revert n
    decide

/-- A text made of Unicode white space only; the empty text is one. -/
def AllWhiteSpace (cs : List Char) : Prop := ∀ c ∈ cs, c.toNat ∈ whiteSpaceCodes

instance : DecidablePred AllWhiteSpace := fun cs =>
  inferInstanceAs (Decidable (∀ c ∈ cs, c.toNat ∈ whiteSpaceCodes))

/-- **Trimming empties a text exactly when it is all Unicode white space.** -/
theorem trim_eq_nil_iff_allWhiteSpace (cs : List Char) : trim cs = [] ↔ AllWhiteSpace cs := by
  simp only [trim_eq_nil_iff, isWhiteSpace_iff, AllWhiteSpace]

example : '\u3000'.toNat ∈ whiteSpaceCodes ∧ '\u0085'.toNat ∈ whiteSpaceCodes ∧
    '\u200B'.toNat ∉ whiteSpaceCodes ∧ '\u001F'.toNat ∉ whiteSpaceCodes := by
  decide

end Text

/-! ## The version test -/

open String in
/-- Splitting at `.` from a position, by the separator's own recursion, is
the split of the characters still ahead, joined onto the piece begun. -/
theorem splitOnAux_dot (l m r : List Char) (acc : List String) :
    String.splitOnAux (ofList (l ++ m ++ r)) "." ⟨utf8Len l⟩ ⟨utf8Len l + utf8Len m⟩ 0 acc =
      acc.reverse ++ (List.splitOnPPrepend (· == '.') r m.reverse).map ofList := by
  -- on the characters ahead; a `.` closes the piece and starts the next one empty
  induction r generalizing l m acc with
  | nil =>
    unfold String.splitOnAux
    simp only [List.append_nil, atEnd_iff, rawEndPos_ofList, utf8Len_append, Pos.Raw.mk_le_mk,
      le_refl, if_true, List.reverse_cons, List.splitOnPPrepend_nil, List.reverse_reverse,
      List.map_cons, List.map_nil]
    simpa using extract_of_valid l m []
  | cons c r ih =>
    unfold String.splitOnAux
    have hend : ¬ (utf8Len l + (utf8Len m + utf8Len (c :: r)) ≤ utf8Len l + utf8Len m) := by
      have := Char.utf8Size_pos c
      simp only [utf8Len_cons]
      omega
    have hget := get_of_valid (l ++ m) (c :: r)
    have hnext := next_of_valid (l ++ m) c r
    simp only [List.append_assoc, List.headD_cons, utf8Len_append] at hget hnext
    simp only [List.append_assoc, atEnd_iff, rawEndPos_ofList, utf8Len_append, Pos.Raw.mk_le_mk,
      hend, if_false]
    have hdot : Pos.Raw.get "." 0 = '.' := rfl
    have hdotNext : Pos.Raw.next "." 0 = ⟨1⟩ := rfl
    have hdotEnd : ".".rawEndPos = ⟨1⟩ := rfl
    rw [hget, hdot, hdotNext, hdotEnd]
    by_cases hc : c = '.'
    · subst hc
      have hun : (⟨utf8Len l + utf8Len m + '.'.utf8Size⟩ : Pos.Raw).unoffsetBy ⟨1⟩ =
          ⟨utf8Len l + utf8Len m⟩ := rfl
      simp only [beq_self_eq_true, if_true, Pos.Raw.mk_le_mk, le_refl, hnext, hun]
      have hext := extract_of_valid l m ('.' :: r)
      simp only [List.append_assoc] at hext
      rw [hext]
      simpa [Nat.add_assoc, List.splitOnPPrepend_cons_eq_if] using
        ih (l ++ m ++ ['.']) [] (ofList m :: acc)
    · have hun : (⟨utf8Len l + utf8Len m⟩ : Pos.Raw).unoffsetBy 0 = ⟨utf8Len l + utf8Len m⟩ := rfl
      simp only [beq_iff_eq, hc, if_false, hun, hnext]
      simpa [List.splitOnPPrepend_cons_eq_if, hc, Nat.add_assoc] using ih l (m ++ [c]) acc

/-- Splitting a text at `.` splits its characters at `.`. -/
theorem splitOn_dot (s : String) : s.splitOn "." = (s.toList.splitOn '.').map String.ofList := by
  have h := splitOnAux_dot [] [] s.toList []
  simp only [List.nil_append, String.ofList_toList, String.utf8Len_nil, Nat.add_zero,
    List.reverse_nil, List.splitOnPPrepend_nil_right] at h
  rw [String.splitOn, if_neg (by decide), List.splitOn_eq_splitOnP]
  exact h

/-- The first piece of a split is what comes before the first separator. -/
theorem head?_splitOn {α : Type} [BEq α] (a : α) (xs : List α) :
    (xs.splitOn a).head? = some (xs.takeWhile (· != a)) := by
  induction xs with
  | nil => simp [List.splitOn_nil]
  | cons x xs ih =>
    rw [List.splitOn_cons_eq_if_modifyHead]
    by_cases hx : (x == a) = true
    · simp [hx, bne]
    · obtain ⟨p, ps, hps⟩ := List.exists_cons_of_ne_nil (List.splitOn_ne_nil a xs)
      rw [hps] at ih ⊢
      simp only [List.head?_cons, Option.some.injEq] at ih
      simp [hx, ih, bne]

/-- A version whose major part is `3`: exactly `3`, or `3.` followed by anything. -/
def MajorThree (v : String) : Prop := v = "3" ∨ ∃ rest, v = "3." ++ rest

theorem takeWhile_eq_three_iff (cs : List Char) :
    cs.takeWhile (· != '.') = ['3'] ↔ cs = ['3'] ∨ ∃ rest, cs = '3' :: '.' :: rest := by
  match cs with
  | [] => simp
  | [c] => by_cases hc : c = '.' <;> simp [hc]
  | c :: d :: rest =>
    by_cases hc : c = '.'
    · subst hc
      simp
    · by_cases hd : d = '.'
      · subst hd
        simp [hc]
      · simp [hc, hd]

/-- A version's major part is `3` exactly when its text before the first `.` is `3`. -/
theorem majorThree_iff_takeWhile (v : String) :
    MajorThree v ↔ v.toList.takeWhile (· != '.') = ['3'] := by
  rw [takeWhile_eq_three_iff, MajorThree]
  constructor
  · rintro (rfl | ⟨rest, rfl⟩)
    · exact .inl rfl
    · exact .inr ⟨rest.toList, by simp⟩
  · rintro (h | ⟨rest, h⟩)
    · exact .inl (String.toList_inj.1 h)
    · exact .inr ⟨String.ofList rest, String.toList_inj.1 (by simp [h])⟩

instance : DecidablePred MajorThree := fun v => decidable_of_iff _ (majorThree_iff_takeWhile v).symm

/-- **The version test is the prefix law**: the text before the first `.` is
`3` exactly when the version is `3` or starts with `3.`. -/
theorem supportedVersion_iff (v : String) : supportedVersion v = true ↔ MajorThree v := by
  have hthree : "3" = String.ofList ['3'] := rfl
  rw [supportedVersion, splitOn_dot, List.head?_map, head?_splitOn, Option.map_some, beq_iff_eq,
    Option.some.injEq, hthree, String.ofList_inj, majorThree_iff_takeWhile]

example : MajorThree "3" ∧ MajorThree "3." ∧ MajorThree "3.x" ∧ MajorThree "3.1.0" := by decide

example : ¬ MajorThree "" ∧ ¬ MajorThree " 3.0" ∧ ¬ MajorThree "30.0" ∧ ¬ MajorThree "3_0" ∧
    ¬ MajorThree ".3" := by
  decide

/-! ## The outcomes -/

/-- A text that reads in no notation is malformed, under its name and notation. -/
theorem exists_malformed_of_readIn_eq_error {name content : String} {format : SourceFormat}
    {e : ParseError} (h : readIn name content format = .error e) :
    ∃ message offset, e = .malformed name format message offset := by
  unfold readIn at h
  cases format with
  | json =>
    cases hj : Json.readDocument content with
    | ok d =>
      rw [hj] at h
      cases h
    | error err =>
      rw [hj] at h
      cases h
      exact ⟨_, _, rfl⟩
  | yaml =>
    cases hy : Yaml.readDocument content with
    | ok d =>
      rw [hy] at h
      cases h
    | error err =>
      rw [hy] at h
      cases h
      exact ⟨_, _, rfl⟩

/-- The five outcomes of parsing a text, each exactly when its step is the
first to decide: all white space; a reading error; no version; a version
whose major part is not `3`; otherwise the document read, as it was read. -/
structure ParsesInOrder (name content : String) (format : SourceFormat) : Prop where
  empty_iff : parseDocument name content format = .error (.empty name) ↔
    Text.AllWhiteSpace content.toList
  syntax_iff : ∀ e, parseDocument name content format = .error e ∧ e.kind = "Syntax" ↔
    ¬ Text.AllWhiteSpace content.toList ∧ readIn name content format = .error e
  missingVersion_iff : parseDocument name content format = .error (.missingVersion name) ↔
    ¬ Text.AllWhiteSpace content.toList ∧ ∃ d, readIn name content format = .ok d ∧ d.openapi = none
  unsupportedVersion_iff : ∀ v, parseDocument name content format = .error (.unsupportedVersion name v) ↔
    ¬ Text.AllWhiteSpace content.toList ∧
      ∃ d, readIn name content format = .ok d ∧ d.openapi = some v ∧ ¬ MajorThree v
  ok_iff : ∀ d, parseDocument name content format = .ok d ↔
    ¬ Text.AllWhiteSpace content.toList ∧ readIn name content format = .ok d ∧
      ∃ v, d.openapi = some v ∧ MajorThree v

section Steps

variable {name content : String} {format : SourceFormat}

theorem parseDocument_of_allWhiteSpace (h : Text.AllWhiteSpace content.toList) :
    parseDocument name content format = .error (.empty name) := by
  have hnil := (Text.trim_eq_nil_iff_allWhiteSpace _).2 h
  simp [parseDocument, hnil, throw, throwThe, MonadExceptOf.throw, bind, Except.bind]

/-- Past the white space test, parsing is reading and then the version test. -/
theorem parseDocument_of_not_allWhiteSpace (h : ¬ Text.AllWhiteSpace content.toList) :
    parseDocument name content format = (readIn name content format).bind fun d =>
      d.openapi.elim (.error (.missingVersion name)) fun v =>
        if supportedVersion v then .ok d else .error (.unsupportedVersion name v) := by
  have hnil : Text.trim content.toList ≠ [] := fun hc =>
    h ((Text.trim_eq_nil_iff_allWhiteSpace _).1 hc)
  cases hread : readIn name content format with
  | error e => simp [parseDocument, hnil, hread, bind, Except.bind]
  | ok d =>
    cases hv : d.openapi with
    | none =>
      simp [parseDocument, hnil, hread, hv, bind, Except.bind, throw, throwThe, MonadExceptOf.throw]
    | some v =>
      by_cases hs : supportedVersion v = true <;>
        simp [parseDocument, hnil, hread, hv, hs, bind, Except.bind, pure, Except.pure, throw,
          throwThe, MonadExceptOf.throw]

/-- **When parsing fails**: with the empty error for a text of white space
only; otherwise with the reader's error, or for a missing version, or for a
version whose major part is not `3`. -/
theorem parseDocument_eq_error_iff {e : ParseError} :
    parseDocument name content format = .error e ↔
      Text.AllWhiteSpace content.toList ∧ e = .empty name ∨
      ¬ Text.AllWhiteSpace content.toList ∧ (readIn name content format = .error e ∨
        ∃ d, readIn name content format = .ok d ∧
          (d.openapi = none ∧ e = .missingVersion name ∨
            ∃ v, d.openapi = some v ∧ ¬ MajorThree v ∧ e = .unsupportedVersion name v)) := by
  by_cases hblank : Text.AllWhiteSpace content.toList
  · simp [parseDocument_of_allWhiteSpace hblank, hblank, eq_comm]
  rw [parseDocument_of_not_allWhiteSpace hblank]
  -- one case per step that decides
  cases hread : readIn name content format with
  | error e' => simp [Except.bind, hblank]
  | ok d =>
    cases hv : d.openapi with
    | none =>
      simp [Except.bind, hv, hblank]
      exact eq_comm
    | some v =>
      by_cases hs : supportedVersion v = true
      · simp [Except.bind, hv, Option.elim, hblank, hs, (supportedVersion_iff v).1 hs]
      · have hm : ¬ MajorThree v := fun hm => hs ((supportedVersion_iff v).2 hm)
        simp [Except.bind, hv, hblank, hs, hm]
        exact eq_comm

theorem readIn_ne_error_of_kind {e : ParseError} (he : e.kind ≠ "Syntax") :
    readIn name content format ≠ .error e := fun h => by
  obtain ⟨message, offset, rfl⟩ := exists_malformed_of_readIn_eq_error h
  exact he rfl

end Steps

/-- **Parsing decides in order**: a text of Unicode white space only is
empty; otherwise one that does not read in its notation is malformed;
otherwise a document without a version (absent or null) is refused, and so
is one whose version is neither `3` nor starts with `3.`; otherwise the
document read is returned unchanged. -/
theorem parseDocument_parsesInOrder (name content : String) (format : SourceFormat) :
    ParsesInOrder name content format where
  empty_iff := by
    rw [parseDocument_eq_error_iff]
    have hread : readIn name content format ≠ .error (.empty name) :=
      readIn_ne_error_of_kind (by simp [ParseError.kind])
    simp [hread]
  syntax_iff e := by
    rw [parseDocument_eq_error_iff]
    constructor
    · rintro ⟨(⟨-, rfl⟩ | ⟨hblank, hread | ⟨d, -, ⟨-, rfl⟩ | ⟨v, -, -, rfl⟩⟩⟩), hkind⟩
      · simp [ParseError.kind] at hkind
      · exact ⟨hblank, hread⟩
      · simp [ParseError.kind] at hkind
      · simp [ParseError.kind] at hkind
    · rintro ⟨hblank, hread⟩
      obtain ⟨message, offset, rfl⟩ := exists_malformed_of_readIn_eq_error hread
      exact ⟨.inr ⟨hblank, .inl hread⟩, rfl⟩
  missingVersion_iff := by
    rw [parseDocument_eq_error_iff]
    have hread : readIn name content format ≠ .error (.missingVersion name) :=
      readIn_ne_error_of_kind (by simp [ParseError.kind])
    simp [hread]
  unsupportedVersion_iff v := by
    rw [parseDocument_eq_error_iff]
    have hread : readIn name content format ≠ .error (.unsupportedVersion name v) :=
      readIn_ne_error_of_kind (by simp [ParseError.kind])
    simp [hread]
  ok_iff d := by
    rw [parseDocument_eq_ok_iff]
    simp only [ne_eq, Text.trim_eq_nil_iff_allWhiteSpace, supportedVersion_iff]

/-- A YAML version written as the number `3.0` is read as the text `3`. -/
example : (Yaml.readDocument "openapi: 3.0\n").toOption.map (·.openapi) = some (some "3") := by
  decide +kernel

end OpenApiLint
