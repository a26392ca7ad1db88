import OpenApiLint.Toml.Lexical
/-!
# Reading TOML text: values and lines

A value is a string, a boolean, a number, a date or time, an array, or an
inline table; which one is decided by its first character.  Arrays and
inline tables nest at most 79 deep.  An inline table is assembled as it is
read, so a key given twice inside it is refused there.

A document is a sequence of lines: blank lines, comments, `key = value`
lines and table headers `[a.b]` or `[[a.b]]`.  Reading yields the
statements in order and, if the text is refused somewhere, that refusal with
its position; the statements before it are kept, since building the tables
from them may fail first.

## Main definitions

* `Toml.value` — a value, with the nesting still allowed.
* `Toml.Statement` — a `key = value` line or a header.
* `Toml.readStatements` — the statements of a text, and the first refusal.
-/

namespace OpenApiLint.Toml

open Parse

/-! ## Inline tables -/

/-- Descend along a dotted key inside an inline table, making implicit dotted
tables on the way, and apply `f` to the table reached. -/
def descendInline {α : Type} (f : Table → Except Cause (Table × α)) (seen : List Key) :
    Table → List Key → Except Cause (Table × α)
  | t, [] => f t
  | t, k :: rest =>
    let child := (t.get? k.name).getD (.inlineTable [] true true none)
    match child with
    | .inlineTable es imp dot sp =>
      if !imp then .error (.duplicateKey k.name none)
      else do
        let (t', a) ← descendInline f (seen ++ [k]) ⟨es, imp, dot, sp⟩ rest
        pure (t.put k (.inlineTable t'.entries t'.implicit t'.dotted t'.span), a)
    | other => .error (.extendsNonTable ((seen ++ [k]).map (·.name)) other.typeName)

/-- Add one `key = value` pair to an inline table. -/
def addInline (t : Table) (path : List Key) (k : Key) (v : Node) : Except Cause Table := do
  let (t', _) ← descendInline (fun table =>
    if table.dotted == path.isEmpty then .error (.duplicateKey k.name none)
    else match table.get? k.name with
      | some _ => .error (.duplicateKey k.name none)
      | none => .ok (table.put k v, ())) [] t path
  pure t'

/-- The inline table of a list of pairs, in order. -/
def inlineOfPairs (pairs : List (List Key × Key × Node)) : Except Cause Table :=
  pairs.foldlM (fun t (path, k, v) => addInline t path k v) {}

/-- `key = value` inside braces. -/
def inlinePair (item : Parse Node) : Parse (List Key × Key × Node) := do
  let ks ← key
  cut (do
    expecting (.char '=') (expecting (.char '.') (char '='))
    let _ ← ws
    let v ← item
    let _ ← ws
    match ks.reverse with
    | k :: path => pure (path.reverse, k, v)
    | [] => refuse)

/-- An inline table: pairs in braces, separated by commas. -/
def inlineTableOf (item : Parse Node) : Parse Table := do
  char '\x7b'
  let bodyStart ← here
  let t ← cut (do
    let pairs ← separated0 (inlinePair item) (char ',')
    let _ ← ws
    match inlineOfPairs pairs with
    | .ok t => pure t
    | .error c => do seek bodyStart; refuseWith c)
  expecting (.char '\x7d') (label "inline table" (cut (char '\x7d')))
  pure t

/-! ## Arrays -/

/-- An item of an array, with the blanks, comments and line ends around it. -/
def arrayItem (item : Parse Node) : Parse Node := do
  wsCommentNewline
  let v ← item
  wsCommentNewline
  pure v

/-- The items of an array, with an optional trailing comma. -/
def arrayItems (item : Parse Node) : Parse (List Node) := do
  if (← peek?) == some 93 then return []
  let items ← separated0 (arrayItem item) (char ',')
  if !items.isEmpty then
    let _ ← optional (char ',')
  wsCommentNewline
  pure items

/-- An array: items in brackets. -/
def arrayOf (item : Parse Node) : Parse (List Node) := do
  char '['
  let items ← cut (arrayItems item)
  expecting (.char ']') (cut (char ']'))
  pure items

/-! ## Values -/

/-- The notes of a refusal where a string would have been right. -/
def asString {α : Type} (p : Parse α) : Parse α :=
  expecting (.char '\x27') (expecting (.char '"') (label "string" p))

/-- A value, given the reader of nested values (none when no more nesting is
allowed). -/
def valueWith (nested : Option (Parse Node)) : Parse Node := do
  let start ← here
  let span : Parse Span := do return ⟨start, ← here⟩
  match ← peek? with
  | none => refuse
  | some b =>
    match b.toNat with
    | 34 | 39 => do let s ← string; return .string s (← span)
    | 91 => match nested with
      | some item => do let xs ← arrayOf item; return .array xs (← span)
      | none => throw { cut := true, cause := some .recursionLimit }
    | 123 => match nested with
      | some item => do
        let t ← inlineTableOf item
        return .inlineTable t.entries false false (some (← span))
      | none => throw { cut := true, cause := some .recursionLimit }
    | 43 | 45 | 48 | 49 | 50 | 51 | 52 | 53 | 54 | 55 | 56 | 57 => do
      orElse (do let d ← datetime; return .datetime d (← span))
        (orElse (do let x ← float; return .float x (← span))
          (do let n ← integer; return .integer n (← span)))
    | 95 => do
      let n ← expecting (.description "leading digit") integer
      return .integer n (← span)
    | 46 => do
      let x ← expecting (.description "leading digit") float
      return .float x (← span)
    | 116 => do
      asString (do let _ ← lookahead (char 't'); cut (literal "true"))
      return .boolean true (← span)
    | 102 => do
      asString (do let _ ← lookahead (char 'f'); cut (literal "false"))
      return .boolean false (← span)
    | 105 => do
      asString (literal "inf")
      return .float Number.Binary64.infinity (← span)
    | 110 => do
      asString (literal "nan")
      return .float Number.Binary64.nan (← span)
    | _ => asString refuse

/-- The deepest arrays and inline tables may nest. -/
def nestingRoom : Nat := 79

/-- A value that may hold `room` more levels of arrays and inline tables. -/
def value : Nat → Parse Node
  | 0 => valueWith none
  | room + 1 => valueWith (some (value room))

/-! ## Lines -/

/-- What a line of a document says. -/
inductive Statement where
  /-- `path.key = value`, starting at a byte offset. -/
  | pair (path : List Key) (key : Key) (value : Node) (start : Nat)
  /-- A header `[path]`. -/
  | header (path : List Key) (span : Span)
  /-- A header `[[path]]`, adding a table to an array of tables. -/
  | arrayHeader (path : List Key) (span : Span)
  deriving Inhabited

/-- The notes of a refusal at the end of a line. -/
def endOfLine : Parse Span :=
  expecting (.char '#') (expecting (.char '\n') lineTrailing)

/-- A `key = value` line. -/
def pairLine : Parse Statement := do
  let start ← here
  let ks ← key
  cut (do
    expecting (.char '=') (expecting (.char '.') (char '='))
    let _ ← ws
    let v ← value nestingRoom
    let _ ← endOfLine
    match ks.reverse with
    | k :: path => pure (.pair path.reverse k v start)
    | [] => refuse)

/-- A header `[a.b]`. -/
def tableHeader : Parse Statement := do
  let start ← here
  char '['
  let ks ← cut key
  expecting (.literal "]") (expecting (.char '.') (cut (char ']')))
  let stop ← here
  let _ ← cut endOfLine
  pure (.header ks ⟨start, stop⟩)

/-- A header `[[a.b]]`. -/
def arrayTableHeader : Parse Statement := do
  let start ← here
  literal "[["
  let ks ← cut key
  expecting (.literal "]]") (expecting (.char '.') (cut (literal "]]")))
  let stop ← here
  let _ ← cut endOfLine
  pure (.arrayHeader ks ⟨start, stop⟩)

/-- Either kind of header, told apart by its first two characters. -/
def header : Parse Statement := label "table header" do
  let p ← here
  let text ← read
  if text.size < p + 2 then refuse
  else if (text.extract p (p + 2)).toList == [91, 91] then arrayTableHeader
  else tableHeader

/-- One step of a document: a comment, a header, a line end, or a
`key = value` line, then blanks.  Only headers and pairs say something. -/
def step : Parse (Option Statement) := do
  let st ← match ← peek? with
    | some 35 => do cut (do comment; lineEnding); pure none
    | some 91 => some <$> cut header
    | some 10 | some 13 => do newline; pure none
    | _ => some <$> cut pairLine
  let _ ← ws
  pure st

/-- A refusal where reading stopped. -/
structure Refusal where
  stop : Stop
  offset : Nat
  deriving Inhabited

/-- The statements from a position on, at most `fuel` steps. -/
def statementsFrom (text : ByteArray) : Nat → Nat → List Statement × Option Refusal
  | 0, _ => ([], none)
  | fuel + 1, p =>
    if text.size ≤ p then ([], none)
    else
      match step.runFrom text p with
      | (.ok st, q) =>
        if q ≤ p then ([], none)
        else
          let (rest, r) := statementsFrom text fuel q
          (st.toList ++ rest, r)
      | (.error e, q) =>
        if e.cut then ([], some ⟨e, q⟩)
        -- a step that gives way leaves the text unfinished where it began
        else ([], some ⟨{}, p⟩)

/-- The byte-order mark. -/
def byteOrderMark : List UInt8 := [0xEF, 0xBB, 0xBF]

/-- The statements of a text, and the first refusal if there is one.  A
byte-order mark and blanks may come first. -/
def readStatements (text : ByteArray) : List Statement × Option Refusal :=
  let p := if (text.extract 0 3).toList == byteOrderMark then 3 else 0
  let p := Parse.runEnd text isBlank p
  statementsFrom text (text.size + 1) p

end OpenApiLint.Toml
