import OpenApiLint.Toml.Tree
import OpenApiLint.Text.Utf8
/-!
# Why a TOML text is refused, and how it is reported

A refusal names what was being read (a *label*: "string", "table header"),
what could have come next (*expectations*), and sometimes a cause that is not
about the next character at all (a key defined twice).  Labels and
expectations are collected from the innermost part outwards; the message
names the first label, all expectations in order, then the cause.

A report points into the text: the line and column of the first byte of the
span (columns count characters), the line itself, and carets under the span.

## Main definitions

* `Toml.Stop`, `Toml.Stop.message`.
* `Toml.Report.render`.
-/

namespace OpenApiLint.Toml

/-- What could have come next. -/
inductive Expected where
  | char (c : Char)
  | literal (s : String)
  | description (s : String)
  deriving Inhabited

/-- The text of an expectation: a character or literal in backticks, the
line feed as the word `newline`. -/
def Expected.describe : Expected → String
  | .char '\n' => "newline"
  | .char c => if c == '\x60' then "'\x60'" else "\x60" ++ c.toString ++ "\x60"
  | .literal s => "\x60" ++ s ++ "\x60"
  | .description s => s

/-- One note added to a refusal on its way out. -/
inductive Context where
  | label (s : String)
  | expected (e : Expected)
  deriving Inhabited

/-- A cause that is not about the next character. -/
inductive Cause where
  /-- A key given twice; the table is named when the refusal knows it. -/
  | duplicateKey (key : String) (table : Option (List String))
  /-- A dotted key or header that passes through a value. -/
  | extendsNonTable (path : List String) (actual : String)
  | outOfRange
  | recursionLimit
  | tooLarge
  | tooSmall
  deriving Inhabited

/-- The text of a cause. -/
def Cause.message : Cause → String
  | .duplicateKey k none => "duplicate key \x60" ++ k ++ "\x60"
  | .duplicateKey k (some []) => "duplicate key \x60" ++ k ++ "\x60 in document root"
  | .duplicateKey k (some t) => "duplicate key \x60" ++ k ++ "\x60 in table \x60" ++ ".".intercalate t ++ "\x60"
  | .extendsNonTable p actual =>
    "dotted key \x60" ++ ".".intercalate p ++ "\x60 attempted to extend non-table type (" ++ actual ++ ")"
  | .outOfRange => "value is out of range"
  | .recursionLimit => "recursion limit exceeded"
  | .tooLarge => "number too large to fit in target type"
  | .tooSmall => "number too small to fit in target type"

/-- A refusal while reading.  A *cut* refusal is final; any other lets an
enclosing choice try its next alternative. -/
structure Stop where
  cut : Bool := false
  contexts : List Context := []
  cause : Option Cause := none
  deriving Inhabited

/-- The message of a refusal: `invalid <first label>`, then
`expected <all expectations>`, then the cause, one per line. -/
def Stop.message (s : Stop) : String :=
  let label := s.contexts.findSome? fun | .label l => some l | _ => none
  let expected := s.contexts.filterMap fun | .expected e => some e.describe | _ => none
  let parts := (label.map ("invalid " ++ ·)).toList ++
    (if expected.isEmpty then [] else ["expected " ++ ", ".intercalate expected]) ++
    (s.cause.map Cause.message).toList
  "\n".intercalate parts

/-- A finished refusal: a message and, usually, the span it is about. -/
structure Report where
  message : String
  span : Option Span
  deriving Inhabited

/-- The line (from zero) and column (in characters, from zero) of a byte
offset.  An offset past the end counts on from the last byte; a column that
would split a character counts bytes instead. -/
def position (text : ByteArray) (index : Nat) : Nat × Nat :=
  if text.size = 0 then (0, index)
  else
    let safe := min index (text.size - 1)
    let before := (text.extract 0 safe).toList
    let lineStart := before.length - (before.reverse.takeWhile (· != 10)).length
    let line := (before.take lineStart).count 10
    let upTo := (text.extract lineStart (safe + 1)).toList
    let column := match Text.decodeUtf8? upTo with
      | some s => s.length - 1
      | none => safe - lineStart
    (line, column + (index - safe))

/-- The lines of a text, split at each line feed. -/
def lineTexts (text : ByteArray) : List String :=
  (Text.decodeLossy text.toList).splitOn "\n"

/-- A report as printed: `TOML parse error at line L, column C`, the line
with a gutter, carets under the span (at least one, not past the line), and
the message; a report without a span is its message alone. -/
def Report.render (text : ByteArray) (r : Report) : String :=
  match r.span with
  | none => r.message ++ "\n"
  | some sp =>
    let (line, column) := position text sp.start
    let lineNum := toString (line + 1)
    let gutter := String.ofList (List.replicate (lineNum.length + 1) ' ')
    let content := (lineTexts text).getD line ""
    let width := min (sp.stop - sp.start) (content.utf8ByteSize - column)
    "TOML parse error at line " ++ lineNum ++ ", column " ++ toString (column + 1) ++ "\n" ++
      gutter ++ "|\n" ++
      lineNum ++ " | " ++ content ++ "\n" ++
      gutter ++ "|" ++ String.ofList (List.replicate (column + 1) ' ') ++
      String.ofList (List.replicate (max width 1) '^') ++ "\n" ++
      r.message ++ "\n"

end OpenApiLint.Toml
