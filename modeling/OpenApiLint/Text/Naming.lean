import OpenApiLint.Text.WhiteSpace
/-!
# Naming conventions

The three text tests the rules apply: lowerCamelCase for property names,
UPPER_SNAKE_CASE for enum values, and blankness for descriptions.  The case
tests are ASCII tests: a letter outside ASCII never satisfies them.

## Main definitions

* `Text.isLowerCamelCase` — an ASCII lowercase letter, then ASCII letters and digits.
* `Text.isUpperSnakeCase` — non-empty groups of `A`–`Z` and `0`–`9` joined by `_`.
* `Text.isBlank` — every character is a separator control or white space that
  breaks a line or a word.
-/

namespace OpenApiLint.Text

/-- lowerCamelCase: an ASCII lowercase first letter followed by ASCII letters
and digits only.  The empty name is not lowerCamelCase. -/
def isLowerCamelCase : List Char → Bool
  | [] => false
  | c :: rest => c.isLower && rest.all Char.isAlphanum

/-- A character allowed inside a group of an UPPER_SNAKE_CASE value. -/
def isUpperSnakeChar (c : Char) : Bool := c.isUpper || c.isDigit

/-- UPPER_SNAKE_CASE: every `_`-separated group is non-empty and made of
`A`–`Z` and `0`–`9`.  The empty value is one empty group, so it fails. -/
def isUpperSnakeCase (cs : List Char) : Bool :=
  (cs.splitOn '_').all fun group => !group.isEmpty && group.all isUpperSnakeChar

/-- A character that leaves a description blank: the information separators
U+001C to U+001F, and white space other than NEL, the no-break spaces
U+00A0 and U+202F, and the figure space U+2007. -/
def isBlankChar (c : Char) : Bool :=
  let n := c.toNat
  (0x1C ≤ n && n ≤ 0x1F) ||
    (isWhiteSpace c && !(n == 0x85 || n == 0xA0 || n == 0x2007 || n == 0x202F))

/-- A blank text has only blank characters; the empty text is blank. -/
def isBlank (cs : List Char) : Bool := cs.all isBlankChar

theorem isBlank_nil : isBlank [] = true := rfl

theorem isLowerCamelCase_cons (c : Char) (rest : List Char) :
    isLowerCamelCase (c :: rest) = (c.isLower && rest.all Char.isAlphanum) := rfl

end OpenApiLint.Text
