/-!
# YAML tokens and reading errors

A mark is a place in the text: a byte index, and a line and column counted
from zero (the column in characters).  Tokens are what the scanner cuts the
text into; errors name a problem at a mark and, usually, the context that
was being read and where it began.

## Main definitions

* `Yaml.Mark`, `Yaml.Token`, `Yaml.TokenKind`, `Yaml.ScalarStyle`.
* `Yaml.Problem` — a reading error, with `Problem.message`.
-/

namespace OpenApiLint.Yaml

/-- A place in the text. -/
structure Mark where
  index : Nat := 0
  line : Nat := 0
  column : Nat := 0
  deriving Inhabited, BEq, Repr

/-- A mark as people count: lines and columns from one. -/
def Mark.describe (m : Mark) : String :=
  "line " ++ toString (m.line + 1) ++ " column " ++ toString (m.column + 1)

/-- A mark is at the very start when both its line and column are zero. -/
def Mark.atStart (m : Mark) : Bool := m.line == 0 && m.column == 0

/-- How a scalar was written. -/
inductive ScalarStyle where
  | plain
  | singleQuoted
  | doubleQuoted
  | literal
  | folded
  deriving Inhabited, BEq, Repr

/-- The kinds of token. Tag handles, suffixes and expansions are bytes, since
escapes in them may spell any octets. -/
inductive TokenKind where
  | streamStart
  | streamEnd
  | versionDirective (major minor : Nat)
  | tagDirective (handle expansion : List UInt8)
  | documentStart
  | documentEnd
  | blockSequenceStart
  | blockMappingStart
  | blockEnd
  | flowSequenceStart
  | flowSequenceEnd
  | flowMappingStart
  | flowMappingEnd
  | blockEntry
  | flowEntry
  | key
  | value
  | alias (name : String)
  | anchor (name : String)
  | tag (handle suffix : List UInt8)
  | scalar (text : String) (style : ScalarStyle)
  deriving Inhabited, BEq, Repr

/-- A token with the marks of its first character and of the place after it. -/
structure Token where
  kind : TokenKind
  start : Mark
  stop : Mark
  deriving Inhabited, Repr

/-- A reading error: the problem and where it was found; the context being
read and where it began, if any; and, for errors found before any mark was
kept, the byte offset. -/
structure Problem where
  problem : String
  problemMark : Mark := {}
  context : Option String := none
  contextMark : Mark := {}
  offset : Nat := 0
  deriving Inhabited, Repr

/-- The text of a reading error.  A mark at the very start is left out, and
the context's mark is left out when it is the problem's own. -/
def Problem.message (p : Problem) : String :=
  let place :=
    if !p.problemMark.atStart then " at " ++ p.problemMark.describe
    else if p.offset != 0 then " at position " ++ toString p.offset
    else ""
  let context := match p.context with
    | some c =>
      let cm := p.contextMark
      let pm := p.problemMark
      ", " ++ c ++
        (if !cm.atStart && (cm.line != pm.line || cm.column != pm.column) then
          " at " ++ cm.describe else "")
    | none => ""
  p.problem ++ place ++ context

end OpenApiLint.Yaml
