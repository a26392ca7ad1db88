/-!
# White space

The Unicode `White_Space` property and the trimming built on it.  Trimming
decides when a document is empty and how a parameter name is compared, so the
property is the full Unicode one: U+3000 is white space, U+200B is not.

## Main definitions

* `Text.isWhiteSpace c` — membership of `c` in `White_Space`.
* `Text.trimStart`, `Text.trim` — the text without leading (and trailing) white space.

The main statement, `trim_eq_nil_iff`, says that trimming empties a text exactly
when every character of it is white space.
-/

namespace OpenApiLint.Text

/-- The Unicode `White_Space` property: the ASCII controls TAB to CR, space,
NEL, no-break space, the Ogham space mark, the spaces U+2000 to U+200A, the
line and paragraph separators, the narrow no-break space, the medium
mathematical space and the ideographic space. -/
def isWhiteSpace (c : Char) : Bool :=
  let n := c.toNat
  (0x09 ≤ n && n ≤ 0x0D) || n == 0x20 || n == 0x85 || n == 0xA0 || n == 0x1680 ||
    (0x2000 ≤ n && n ≤ 0x200A) || n == 0x2028 || n == 0x2029 || n == 0x202F ||
    n == 0x205F || n == 0x3000

/-- The characters without the leading white space. -/
def trimStart (cs : List Char) : List Char := cs.dropWhile isWhiteSpace

/-- The characters without the trailing white space. -/
def trimEnd (cs : List Char) : List Char := (cs.reverse.dropWhile isWhiteSpace).reverse

/-- The characters without leading and trailing white space. -/
def trim (cs : List Char) : List Char := trimEnd (trimStart cs)

theorem dropWhile_eq_nil_iff {p : Char → Bool} {cs : List Char} :
    cs.dropWhile p = [] ↔ ∀ c ∈ cs, p c = true := by
  induction cs with
  | nil => simp
  | cons c r ih =>
    by_cases hc : p c = true
    · simp [hc, ih]
    · simp [hc]

/-- What is left after dropping a run is empty once all of it passes the test. -/
theorem dropWhile_eq_nil_of_all {p : Char → Bool} {cs : List Char}
    (h : ∀ c ∈ cs.dropWhile p, p c = true) : cs.dropWhile p = [] := by
  induction cs with
  | nil => rfl
  | cons c r ih =>
    by_cases hc : p c = true
    · simp only [List.dropWhile_cons, hc, if_true] at h ⊢
      exact ih h
    · simp only [List.dropWhile_cons, hc] at h
      exact absurd (h c (by simp)) hc

/-- **Trimming empties a text exactly when all of it is white space.** -/
theorem trim_eq_nil_iff (cs : List Char) :
    trim cs = [] ↔ ∀ c ∈ cs, isWhiteSpace c = true := by
  constructor
  · intro h
    have h1 : (trimStart cs).reverse.dropWhile isWhiteSpace = [] := by
      simpa [trim, trimEnd] using h
    have h2 := dropWhile_eq_nil_iff.1 h1
    have h3 : trimStart cs = [] :=
      dropWhile_eq_nil_of_all (fun c hc => h2 c (List.mem_reverse.2 hc))
    exact dropWhile_eq_nil_iff.1 h3
  · intro h
    have h3 : trimStart cs = [] := dropWhile_eq_nil_iff.2 h
    simp [trim, trimEnd, h3]

end OpenApiLint.Text

namespace String

/-- The text without leading and trailing Unicode white space. -/
def trimWhite (s : String) : String := String.ofList (OpenApiLint.Text.trim s.toList)

end String
