import OpenApiLint.Text.LineBreak
import OpenApiLint.Text.Utf8
import OpenApiLint.Document.Parse
/-!
# Diagnostic reports

A document that cannot be read is reported on standard error as a boxed
diagnostic:

```text
oas_lint::parse::syntax

  × Failed to parse bad.json as JSON: trailing comma at line 1 column 15
   ╭─[bad.json:1:15]
 1 │ {"openapi": 3,}
   ·               ▲
   ·               ╰── JSON error here
   ╰────
```

The code comes first, then the message filled to 78 columns behind `×` (the
lines after the first behind `│`), then, for a syntax error, the source around
the place it points at, then the help, if any, filled behind `help:`.

The source part shows the line of the place with one line before and one
after it.  Which lines those are, and the line and column in the frame's
title, come from one scan over the bytes (`scanContext`): a line break is a
line feed, a carriage return, or both together; the column counts bytes from
the start of the line.  The place is marked under its line by `▲` at its
display column (tabs reaching the next multiple of four), and the label hangs
below it; a place outside every shown line, such as the very end of a text
that ends with a line break, gets no mark.

## Main definitions

* `Diagnostic`, `Diagnostic.render`.
* `ParseError.diagnostic` — the report of a document that cannot be read.
-/

namespace OpenApiLint

/-- A place in a named source text that a diagnostic points at, with the
label hung under it. -/
structure Snippet where
  name : String
  source : String
  offset : Nat
  label : String
  deriving Inhabited

/-- A report: its code, its message, a place in the source and a help text
when it has them. -/
structure Diagnostic where
  code : String
  message : String
  help : Option String := none
  snippet : Option Snippet := none
  deriving Inhabited

/-! ## Finding the lines around a place -/

/-- The progress of a scan for the lines around a place: where the scan is,
the first line kept and the column of the place on its line, the starts of
the lines kept before the place (oldest first), the start of the current
line, the lines taken after the place, and whether the place was passed and
its line ended. -/
structure ContextScan where
  offset : Nat := 0
  startLine : Nat := 0
  startColumn : Nat := 0
  lineStarts : List Nat := []
  currentLineStart : Nat := 0
  endLines : Nat := 0
  pastPlace : Bool := false
  placeLineEnded : Bool := false
  deriving Inhabited

/-- What the scan needs to know: the place, and how many lines to keep before
and after the place's line. -/
structure ContextRequest where
  place : Nat
  before : Nat
  after : Nat

/-- The end of a unit whose last byte is at `last`: once at or past the byte
before the place, the scan has passed it, and stops when enough lines after
it were taken.  Returns the new state and whether the scan stops. -/
def ContextScan.endUnit (r : ContextRequest) (st : ContextScan) (last : Nat) : ContextScan × Bool :=
  if last ≥ r.place - 1 then
    if st.endLines ≥ r.after then ({ st with pastPlace := true, offset := last + 1 }, true)
    else ({ st with pastPlace := true, offset := last + 1 }, false)
  else ({ st with offset := last + 1 }, false)

/-- A line break whose last byte is at `last`: before the place it starts a
line that may be kept; after the place it counts a line taken. -/
def ContextScan.lineBreak (r : ContextRequest) (st : ContextScan) (last : Nat) : ContextScan × Bool :=
  if last < r.place then
    let starts := st.lineStarts ++ [st.currentLineStart]
    let st := if starts.length > r.before then
        { st with startColumn := 0, lineStarts := starts.tail, startLine := st.startLine + 1 }
      else { st with startColumn := 0, lineStarts := starts }
    ContextScan.endUnit r { st with currentLineStart := last + 1 } last
  else if st.pastPlace then
    let st := { st with startColumn := 0 }
    let st := if st.placeLineEnded then { st with endLines := st.endLines + 1 }
      else { st with placeLineEnded := true }
    if st.endLines ≥ r.after then ({ st with offset := last + 1 }, true)
    else ContextScan.endUnit r { st with currentLineStart := last + 1 } last
  else ContextScan.endUnit r { st with currentLineStart := last + 1 } last

/-- Any other byte, at the scan's offset: before the place it moves the column. -/
def ContextScan.plainByte (r : ContextRequest) (st : ContextScan) : ContextScan × Bool :=
  let st := if st.offset < r.place then { st with startColumn := st.startColumn + 1 } else st
  ContextScan.endUnit r st st.offset

/-- Scan bytes until enough lines after the place were taken or the bytes
run out. -/
def scanContext (r : ContextRequest) (st : ContextScan) : List UInt8 → ContextScan
  | [] => st
  | 13 :: 10 :: rest =>
    match st.lineBreak r (st.offset + 1) with
    | (st, true) => st
    | (st, false) => scanContext r st rest
  | b :: rest =>
    let step := if b == 13 || b == 10 then st.lineBreak r st.offset else st.plainByte r
    match step with
    | (st, true) => st
    | (st, false) => scanContext r st rest

/-- The lines around a place: the byte range they span, the number (from
zero) of the first, and the column of the place when no line before it is
kept. -/
structure SourceContext where
  start : Nat
  stop : Nat
  line : Nat
  column : Nat

/-- The lines around `place` in `bytes`, `before` lines before its line and
`after` after it. -/
def sourceContext (bytes : List UInt8) (place before after : Nat) : SourceContext :=
  let st := scanContext ⟨place, before, after⟩ {} bytes
  let start := match st.lineStarts with
    | s :: _ => s
    | [] => if before == 0 then place else 0
  { start, stop := st.offset, line := st.startLine,
    column := if before == 0 then st.startColumn else 0 }

/-! ## Lines of a snippet -/

/-- A line shown in a snippet: its number (from one), its byte offset and
length with the line break, and its text without it. -/
structure SourceLine where
  number : Nat
  offset : Nat
  length : Nat
  text : String
  deriving Inhabited

/-- The state of cutting a text into lines: the line number, the byte
offset reached, where the current line began, its column and its text so far
(reversed). -/
structure LineCut where
  line : Nat
  offset : Nat
  lineOffset : Nat
  column : Nat
  text : List Char

/-- After one unit of text: a line ends at a line break (the text keeps a
lone carriage return) and at the end of the text, which also counts as the
end of a line unless the text ends with a line break. -/
def LineCut.close (st : LineCut) (atLastUnit endsWithBreak : Bool) (acc : List SourceLine) :
    LineCut × List SourceLine :=
  let line := if atLastUnit && !endsWithBreak then st.line + 1 else st.line
  if st.column == 0 || atLastUnit then
    ({ st with line, lineOffset := st.offset, text := [] },
      { number := line, offset := st.lineOffset, length := st.offset - st.lineOffset,
        text := String.ofList st.text.reverse } :: acc)
  else ({ st with line }, acc)

/-- Cut the characters of a text into lines. -/
def cutLines (st : LineCut) (acc : List SourceLine) : List Char → List SourceLine
  | [] => acc.reverse
  | '\r' :: '\n' :: rest =>
    let (st, acc) := LineCut.close
      { st with offset := st.offset + 2, line := st.line + 1, column := 0 } rest.isEmpty rest.isEmpty acc
    cutLines st acc rest
  | c :: rest =>
    let st :=
      if c == '\n' then { st with offset := st.offset + 1, line := st.line + 1, column := 0 }
      else { st with offset := st.offset + c.utf8Size, column := st.column + 1, text := c :: st.text }
    let (st, acc) := LineCut.close st rest.isEmpty (rest.isEmpty && (c == '\n' || c == '\r')) acc
    cutLines st acc rest

/-- The lines of a snippet around `place`: one before and one after its line. -/
def snippetLines (bytes : List UInt8) (place : Nat) : List SourceLine :=
  let ctx := sourceContext bytes place 1 1
  let text := Text.decodeLossy ((bytes.drop ctx.start).take (ctx.stop - ctx.start))
  cutLines { line := ctx.line, offset := ctx.start, lineOffset := ctx.start, column := ctx.column, text := [] }
    [] text.toList

/-! ## Rendering -/

/-- Columns of the display, and of a tab. -/
def reportWidth : Nat := 80

/-- The columns a tab reaches to. -/
def reportTabWidth : Nat := 4

/-- `n` spaces. -/
def spaces (n : Nat) : String := String.ofList (List.replicate n ' ')

/-- The display column of byte offset `place` within a line: the width of
the text before it, one more when it points past the text into the line
break. -/
def SourceLine.columnOf (l : SourceLine) (place : Nat) : Nat :=
  let index := place - l.offset
  let bytes := Text.encodeUtf8 l.text
  if index > bytes.length then Text.columnsAfter reportTabWidth 0 l.text.toList + 1
  else
    -- a place inside a character counts from that character's start
    let before := Text.decodeLossy (bytes.take index)
    let before := if Text.encodeUtf8 before = bytes.take index then before
      else String.ofList (before.toList.dropLast)
    Text.columnsAfter reportTabWidth 0 before.toList

/-- The source part of a report. -/
def Snippet.render (s : Snippet) : String :=
  let bytes := Text.encodeUtf8 s.source
  let title := sourceContext bytes s.offset 0 0
  let lines := snippetLines bytes s.offset
  let numberWidth := (toString ((lines.getLast?.map (·.number)).getD 0)).length
  let gutter := spaces (numberWidth + 2)
  let noNumber := " " ++ spaces numberWidth ++ " · "
  let header := gutter ++ "╭─[" ++ s.name ++ ":" ++ toString (title.line + 1) ++ ":" ++
    toString (title.column + 1) ++ "]\n"
  let body := lines.foldl (fun acc l =>
    let num := toString l.number
    let shown := " " ++ spaces (numberWidth - num.length) ++ num ++ " │ " ++
      Text.expandTabs reportTabWidth l.text ++ "\n"
    let marked :=
      if l.offset ≤ s.offset && s.offset < l.offset + l.length then
        let col := l.columnOf s.offset
        noNumber ++ spaces col ++ "▲\n" ++ noNumber ++ spaces col ++ "╰── " ++ s.label ++ "\n"
      else ""
    acc ++ shown ++ marked) ""
  header ++ body ++ gutter ++ "╰────\n"

/-- A report as written to standard error, ending with a line break. -/
def Diagnostic.render (d : Diagnostic) : String :=
  let width := reportWidth - 2
  d.code ++ "\n\n" ++
    Text.fill width "  × " "  │ " d.message ++ "\n" ++
    (d.snippet.map Snippet.render).getD "" ++
    (d.help.map fun h => Text.fill width "  help: " "        " h ++ "\n").getD ""

/-- The report of a document that cannot be read. -/
def ParseError.diagnostic (source : String) : ParseError → Diagnostic
  | e@(.empty _) => { code := "oas_lint::parse::empty", message := e.message }
  | e@(.malformed name format _ offset) =>
    { code := "oas_lint::parse::syntax", message := e.message,
      snippet := some { name, source, offset := min offset source.utf8ByteSize,
                        label := format.label ++ " error here" } }
  | e@(.missingVersion _) =>
    { code := "oas_lint::parse::missing_version", message := e.message,
      help := some "add \x60openapi: 3.0.3\x60 at the document root" }
  | e@(.unsupportedVersion _ _) =>
    { code := "oas_lint::parse::unsupported_version", message := e.message,
      help := some "only OpenAPI 3.x documents are supported" }

end OpenApiLint
