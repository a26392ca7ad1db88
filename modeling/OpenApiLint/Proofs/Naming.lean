import Mathlib
import OpenApiLint.Text.Naming
/-!
# What the naming tests accept

The rules test names with four small functions: a first-character test for
lowerCamelCase, a split-then-check test for UPPER_SNAKE_CASE, a per-character
test for blank descriptions, and a trim-then-fold comparison with `id` for
parameter names.  Each is shown here to decide a language stated on its own
terms.

* `isLowerCamelCase` decides the language `[a-z][A-Za-z0-9]*` (`LowerCamel`):
  no empty name, no leading capital or digit, no `_`, `-` or letter outside
  ASCII anywhere.
* `isUpperSnakeCase` decides the language `[A-Z0-9]+(_[A-Z0-9]+)*`
  (`UpperSnake`): no empty value, no leading, trailing or doubled underscore,
  no capital outside ASCII.
* `isBlank` accepts exactly the texts made of Java's white space
  (`javaWhitespace`): Unicode `White_Space` less NEL and the three no-break
  spaces, with the information separators added.
* Trimming a name and folding its ASCII case gives `id` exactly when the name
  is `id`, in some letter case, with only white space around it (`IsBareId`).

## Main statements

* `isLowerCamelCase_iff`, `isUpperSnakeCase_iff`, `isBlank_iff`, `toLower_trim_eq_id_iff`.
-/

namespace OpenApiLint.Text

/-! ## Characters by code point -/

theorem toNat_toLower (c : Char) :
    c.toLower.toNat = if 65 ≤ c.toNat ∧ c.toNat ≤ 90 then c.toNat + 32 else c.toNat := by
  have hA : 'A'.val.toNat = 65 := rfl
  have hZ : 'Z'.val.toNat = 90 := rfl
  have hoff : ('a'.val - 'A'.val).toNat = 32 := rfl
  unfold Char.toLower
  split
  · rename_i h
    rw [ge_iff_le, UInt32.le_iff_toNat_le, UInt32.le_iff_toNat_le, hA, hZ] at h
    change 65 ≤ c.toNat ∧ c.toNat ≤ 90 at h
    rw [if_pos h]
    show (c.val + ('a'.val - 'A'.val)).toNat = c.val.toNat + 32
    rw [UInt32.toNat_add, hoff]
    -- a capital plus 32 stays far below the width of the word
    have hlt : c.val.toNat + 32 < 4294967296 := by change c.toNat + 32 < _; omega
    exact Nat.mod_eq_of_lt hlt
  · rename_i h
    rw [ge_iff_le, UInt32.le_iff_toNat_le, UInt32.le_iff_toNat_le, hA, hZ] at h
    change ¬ (65 ≤ c.toNat ∧ c.toNat ≤ 90) at h
    rw [if_neg h]

/-- The characters that fold to a lower-case ASCII letter are the letter and its capital. -/
theorem toLower_eq_iff {c l u : Char} (hl : 97 ≤ l.toNat ∧ l.toNat ≤ 122)
    (hu : u.toNat + 32 = l.toNat) : c.toLower = l ↔ c = l ∨ c = u := by
  rw [← Char.toNat_inj, toNat_toLower, ← Char.toNat_inj, ← Char.toNat_inj]
  split <;> omega

/-! ## lowerCamelCase -/

/-- An ASCII letter or digit. -/
def IsAsciiAlnum (c : Char) : Prop :=
  ('a' ≤ c ∧ c ≤ 'z') ∨ ('A' ≤ c ∧ c ≤ 'Z') ∨ ('0' ≤ c ∧ c ≤ '9')

/-- The language `[a-z][A-Za-z0-9]*`: an ASCII lowercase letter, then ASCII
letters and digits only. -/
def LowerCamel (cs : List Char) : Prop :=
  ∃ c rest, cs = c :: rest ∧ ('a' ≤ c ∧ c ≤ 'z') ∧ ∀ x ∈ rest, IsAsciiAlnum x

theorem isLower_iff (c : Char) : c.isLower = true ↔ 'a' ≤ c ∧ c ≤ 'z' := by
  simp only [Char.isLower, Bool.and_eq_true, decide_eq_true_eq, ge_iff_le, Char.le_def]

theorem isAlphanum_iff (c : Char) : c.isAlphanum = true ↔ IsAsciiAlnum c := by
  simp only [Char.isAlphanum, Char.isAlpha, Char.isUpper, Char.isLower, Char.isDigit, IsAsciiAlnum,
    Bool.or_eq_true, Bool.and_eq_true, decide_eq_true_eq, ge_iff_le, Char.le_def]
  tauto

/-- **`isLowerCamelCase` decides lowerCamelCase**: the first character is
tested alone, every later one as a letter or digit. -/
theorem isLowerCamelCase_iff (cs : List Char) : isLowerCamelCase cs = true ↔ LowerCamel cs := by
  cases cs with
  | nil => simp [isLowerCamelCase, LowerCamel]
  | cons c rest =>
    simp only [isLowerCamelCase, LowerCamel, Bool.and_eq_true, isLower_iff, List.all_eq_true,
      isAlphanum_iff, List.cons.injEq]
    constructor
    · rintro ⟨hc, hrest⟩
      exact ⟨c, rest, ⟨rfl, rfl⟩, hc, hrest⟩
    · rintro ⟨c', rest', ⟨rfl, rfl⟩, hc, hrest⟩
      exact ⟨hc, hrest⟩

instance : DecidablePred LowerCamel := fun cs => decidable_of_iff _ (isLowerCamelCase_iff cs)

example : LowerCamel "firstName".toList ∧ LowerCamel "a1b2".toList ∧ LowerCamel "x".toList := by
  decide

example : ¬ LowerCamel [] ∧ ¬ LowerCamel "First_name".toList ∧ ¬ LowerCamel "1stName".toList ∧
    ¬ LowerCamel "first-name".toList ∧ ¬ LowerCamel "naïve".toList ∧ ¬ LowerCamel "éa".toList := by
  decide

/-! ## UPPER_SNAKE_CASE -/

/-- A character of an UPPER_SNAKE_CASE group: an ASCII capital or an ASCII digit. -/
def IsSnakeChar (c : Char) : Prop := ('A' ≤ c ∧ c ≤ 'Z') ∨ ('0' ≤ c ∧ c ≤ '9')

/-- A group of an UPPER_SNAKE_CASE value: `[A-Z0-9]+`. -/
def IsSnakeGroup (g : List Char) : Prop := g ≠ [] ∧ ∀ c ∈ g, IsSnakeChar c

/-- The language `[A-Z0-9]+(_[A-Z0-9]+)*`: one group, or a group, an underscore
and a value of the language. -/
inductive UpperSnake : List Char → Prop
  | group {g : List Char} : IsSnakeGroup g → UpperSnake g
  | join {g rest : List Char} : IsSnakeGroup g → UpperSnake rest → UpperSnake (g ++ '_' :: rest)

theorem isUpperSnakeChar_iff (c : Char) : isUpperSnakeChar c = true ↔ IsSnakeChar c := by
  simp only [isUpperSnakeChar, IsSnakeChar, Char.isUpper, Char.isDigit, Bool.or_eq_true,
    Bool.and_eq_true, decide_eq_true_eq, ge_iff_le, Char.le_def]

/-- The test applied to each `_`-separated piece is the group condition. -/
theorem groupTest_iff (g : List Char) :
    (!g.isEmpty && g.all isUpperSnakeChar) = true ↔ IsSnakeGroup g := by
  simp [IsSnakeGroup, isUpperSnakeChar_iff]

theorem underscore_not_mem {g : List Char} (hg : IsSnakeGroup g) : '_' ∉ g := fun hmem => by
  have h := hg.2 '_' hmem
  simp only [IsSnakeChar] at h
  revert h
  decide

theorem isUpperSnakeCase_of_upperSnake {cs : List Char} (h : UpperSnake cs) :
    isUpperSnakeCase cs = true := by
  induction h with
  | group hg =>
    rw [isUpperSnakeCase, List.splitOn_eq_singleton (underscore_not_mem hg)]
    simpa using (groupTest_iff _).2 hg
  | join hg _ ih =>
    rw [isUpperSnakeCase, List.splitOn_append_cons_self_of_not_mem (underscore_not_mem hg),
      List.all_cons, Bool.and_eq_true]
    exact ⟨(groupTest_iff _).2 hg, ih⟩

/-- Groups joined by single underscores form a value of the language. -/
theorem upperSnake_intercalate {gs : List (List Char)} (hne : gs ≠ [])
    (h : ∀ g ∈ gs, IsSnakeGroup g) : UpperSnake (['_'].intercalate gs) := by
  induction gs with
  | nil => exact absurd rfl hne
  | cons g rest ih =>
    cases rest with
    | nil => simpa using UpperSnake.group (h g (by simp))
    | cons g' rest' =>
      rw [List.intercalate_cons_cons, List.append_assoc, List.singleton_append]
      exact .join (h g (by simp)) (ih (by simp) fun x hx => h x (List.mem_cons_of_mem g hx))

/-- **`isUpperSnakeCase` decides UPPER_SNAKE_CASE**: split at every underscore,
each piece must be a non-empty run of ASCII capitals and digits. -/
theorem isUpperSnakeCase_iff (cs : List Char) : isUpperSnakeCase cs = true ↔ UpperSnake cs := by
  refine ⟨fun h => ?_, isUpperSnakeCase_of_upperSnake⟩
  have hgroups : ∀ g ∈ cs.splitOn '_', IsSnakeGroup g := fun g hg =>
    (groupTest_iff g).1 (List.all_eq_true.1 h g hg)
  simpa using upperSnake_intercalate (List.splitOn_ne_nil '_' cs) hgroups

instance : DecidablePred UpperSnake := fun cs => decidable_of_iff _ (isUpperSnakeCase_iff cs)

example : UpperSnake "IN_PROGRESS".toList ∧ UpperSnake "2XX".toList ∧ UpperSnake "A_1_B".toList := by
  decide

example : ¬ UpperSnake [] ∧ ¬ UpperSnake "_ACTIVE".toList ∧ ¬ UpperSnake "ACTIVE_".toList ∧
    ¬ UpperSnake "IN__PROGRESS".toList ∧ ¬ UpperSnake "ÄRGER".toList := by
  decide

/-! ## Blank text -/

/-- The code points of Java's `Character.isWhitespace`: the space, line and
paragraph separators other than the no-break spaces U+00A0, U+2007 and
U+202F, and the controls TAB, LF, VT, FF, CR and U+001C to U+001F. -/
def javaWhitespace : List Nat :=
  [0x09, 0x0A, 0x0B, 0x0C, 0x0D, 0x1C, 0x1D, 0x1E, 0x1F, 0x20, 0x1680,
    0x2000, 0x2001, 0x2002, 0x2003, 0x2004, 0x2005, 0x2006, 0x2008, 0x2009, 0x200A,
    0x2028, 0x2029, 0x205F, 0x3000]

/-- Unicode white space without NEL and the no-break spaces, with the
information separators, is Java's white space. -/
theorem isBlankChar_iff (c : Char) : isBlankChar c = true ↔ c.toNat ∈ javaWhitespace := by
  simp only [isBlankChar, isWhiteSpace, Bool.or_eq_true, Bool.and_eq_true, decide_eq_true_eq,
    beq_iff_eq, Bool.not_eq_true', Bool.or_eq_false_iff, beq_eq_false_iff_ne, or_assoc]
  generalize c.toNat = n
  constructor
  · rintro (⟨hlo, hhi⟩ | ⟨⟨hlo, hhi⟩ | rfl | rfl | rfl | rfl | ⟨hlo, hhi⟩ | rfl | rfl | rfl | rfl | rfl, hne⟩)
    -- cut each range into its code points; NEL and the no-break spaces contradict `hne`
    all_goals (try interval_cases n) <;> simp_all [javaWhitespace]
  · -- every listed code point passes the test
    revert n
    decide

/-- **A text is blank exactly when all of it is Java white space**; the empty
text is blank. -/
theorem isBlank_iff (cs : List Char) : isBlank cs = true ↔ ∀ c ∈ cs, c.toNat ∈ javaWhitespace := by
  simp only [isBlank, List.all_eq_true, isBlankChar_iff]

/-! ## Bare identifiers -/

/-- The spellings of `id` in ASCII letter case. -/
def idSpellings : List (List Char) := [['i', 'd'], ['i', 'D'], ['I', 'd'], ['I', 'D']]

/-- A name that is `id`, in some letter case, with only white space around it. -/
def IsBareId (name : List Char) : Prop :=
  ∃ pre core post, name = pre ++ core ++ post ∧ core ∈ idSpellings ∧
    (∀ c ∈ pre, isWhiteSpace c = true) ∧ ∀ c ∈ post, isWhiteSpace c = true

/-- What trimming drops is white space, on either side of what it keeps. -/
theorem exists_frame_trim (cs : List Char) : ∃ pre post, cs = pre ++ trim cs ++ post ∧
    (∀ c ∈ pre, isWhiteSpace c = true) ∧ ∀ c ∈ post, isWhiteSpace c = true := by
  set r := trimStart cs
  refine ⟨cs.takeWhile isWhiteSpace, (r.reverse.takeWhile isWhiteSpace).reverse, ?_,
    fun c hc => List.mem_takeWhile_imp hc,
    fun c hc => List.mem_takeWhile_imp (List.mem_reverse.1 hc)⟩
  have hr : r = trim cs ++ (r.reverse.takeWhile isWhiteSpace).reverse := by
    calc r = (r.reverse.takeWhile isWhiteSpace ++ r.reverse.dropWhile isWhiteSpace).reverse := by
          rw [List.takeWhile_append_dropWhile, List.reverse_reverse]
      _ = trim cs ++ (r.reverse.takeWhile isWhiteSpace).reverse := by
          rw [List.reverse_append]
          rfl
  rw [List.append_assoc, ← hr]
  exact (List.takeWhile_append_dropWhile).symm

/-- Trimming keeps a middle whose first and last characters are not white
space, and drops the white space around it. -/
theorem trim_frame {pre core post : List Char} {a b : Char}
    (hpre : ∀ c ∈ pre, isWhiteSpace c = true) (hpost : ∀ c ∈ post, isWhiteSpace c = true)
    (hhead : core.head? = some a) (hlast : core.getLast? = some b)
    (ha : isWhiteSpace a = false) (hb : isWhiteSpace b = false) :
    trim (pre ++ core ++ post) = core := by
  have hstart : trimStart (pre ++ core ++ post) = core ++ post := by
    obtain ⟨rest, rfl⟩ := List.head?_eq_some_iff.1 hhead
    rw [trimStart, List.append_assoc, List.dropWhile_append_of_pos hpre, List.cons_append,
      List.dropWhile_cons_of_neg (by simp [ha])]
  have hend : core.reverse.dropWhile isWhiteSpace = core.reverse := by
    obtain ⟨rest, hrest⟩ := List.head?_eq_some_iff.1 (List.head?_reverse.trans hlast)
    rw [hrest, List.dropWhile_cons_of_neg (by simp [hb])]
  have hpost' : ∀ c ∈ post.reverse, isWhiteSpace c = true := fun c hc =>
    hpost c (List.mem_reverse.1 hc)
  rw [trim, hstart, trimEnd, List.reverse_append, List.dropWhile_append_of_pos hpost', hend,
    List.reverse_reverse]

theorem trim_mem_idSpellings_iff (cs : List Char) : trim cs ∈ idSpellings ↔ IsBareId cs := by
  constructor
  · intro h
    obtain ⟨pre, post, hcs, hpre, hpost⟩ := exists_frame_trim cs
    exact ⟨pre, trim cs, post, hcs, h, hpre, hpost⟩
  · rintro ⟨pre, core, post, rfl, hcore, hpre, hpost⟩
    -- every spelling starts with `i` or `I` and ends with `d` or `D`, none of them white space
    simp only [idSpellings, List.mem_cons, List.not_mem_nil, or_false] at hcore ⊢
    rcases hcore with rfl | rfl | rfl | rfl <;>
      rw [trim_frame hpre hpost rfl rfl (by decide) (by decide)] <;> simp

/-- Folding the ASCII capitals of a text gives `id` exactly for the spellings of `id`. -/
theorem toLower_ofList_eq_id_iff (l : List Char) : (String.ofList l).toLower = "id" ↔ l ∈ idSpellings := by
  have hi : ∀ c : Char, c.toLower = 'i' ↔ c = 'i' ∨ c = 'I' := fun _ =>
    toLower_eq_iff (by decide) (by decide)
  have hd : ∀ c : Char, c.toLower = 'd' ↔ c = 'd' ∨ c = 'D' := fun _ =>
    toLower_eq_iff (by decide) (by decide)
  rw [← String.toList_inj, String.toLower, String.toList_map, String.toList_ofList,
    show "id".toList = ['i', 'd'] from rfl]
  match l with
  | [] => simp [idSpellings]
  | [_] => simp [idSpellings]
  | [c, e] =>
    simp only [List.map_cons, List.map_nil, List.cons.injEq, and_true, hi, hd, idSpellings,
      List.mem_cons, List.not_mem_nil, or_false]
    constructor
    · rintro ⟨rfl | rfl, rfl | rfl⟩ <;> simp
    · rintro (⟨rfl, rfl⟩ | ⟨rfl, rfl⟩ | ⟨rfl, rfl⟩ | ⟨rfl, rfl⟩) <;> simp
  | _ :: _ :: _ :: _ => simp [idSpellings]

/-- **A name trimmed and case-folded is `id` exactly when it is a bare `id`.** -/
theorem toLower_trim_eq_id_iff (name : String) :
    (String.ofList (trim name.toList)).toLower = "id" ↔ IsBareId name.toList := by
  rw [toLower_ofList_eq_id_iff, trim_mem_idSpellings_iff]

instance : DecidablePred IsBareId := fun cs =>
  decidable_of_iff _ (trim_mem_idSpellings_iff cs)

example : IsBareId [' ', 'I', 'd', '\t'] ∧ IsBareId ['\u3000', 'i', 'D'] := by decide

example : ¬ IsBareId ['i', 'd', 'x'] ∧ ¬ IsBareId ['\u0131', 'd'] ∧ ¬ IsBareId ['i', ' ', 'd'] ∧
    ¬ IsBareId ['\u200B', 'i', 'd'] := by
  decide

end OpenApiLint.Text
