import OpenApiLint.Json.Decoder
import OpenApiLint.Yaml.Decoder
import OpenApiLint.SourceFormat
/-!
# Reading a document

A text becomes a document in three steps: a text of white space only is
refused as empty; the text is read in its notation, and a failure is reported
with the reader's message and the byte offset it points at; last, the
document must declare an OpenAPI version whose major part is `3`.

## Main definitions

* `ParseError` — why a text is not a document, with `ParseError.message`.
* `supportedVersion` — the version check.
* `parseDocument` — the three steps.
-/

namespace OpenApiLint

/-- Why a text is not an OpenAPI 3 document.  `name` names the text in messages. -/
inductive ParseError where
  /-- The text holds nothing but white space. -/
  | empty (name : String)
  /-- The text is not well formed, or not shaped like a document. -/
  | malformed (name : String) (format : SourceFormat) (message : String) (offset : Nat)
  /-- The document declares no `openapi` version. -/
  | missingVersion (name : String)
  /-- The declared version is not a 3.x version. -/
  | unsupportedVersion (name : String) (version : String)
  deriving Inhabited

namespace ParseError

/-- The kind of error, as one word. -/
def kind : ParseError → String
  | .empty .. => "Empty"
  | .malformed .. => "Syntax"
  | .missingVersion .. => "MissingVersion"
  | .unsupportedVersion .. => "UnsupportedVersion"

/-- The error's message. -/
def message : ParseError → String
  | .empty name => name ++ " is empty"
  | .malformed name format msg _ => "Failed to parse " ++ name ++ " as " ++ format.label ++ ": " ++ msg
  | .missingVersion name => name ++ " does not declare an `openapi` version"
  | .unsupportedVersion name v => name ++ " declares unsupported OpenAPI version `" ++ v ++ "`"

/-- The byte offset a syntax error points at. -/
def offset? : ParseError → Option Nat
  | .malformed _ _ _ offset => some offset
  | _ => none

end ParseError

/-- The lines of a text, each with its newline; `current` is the reversed
start of the line being read. -/
def linesWithBreaks : List UInt8 → (current : List UInt8 := []) → List (List UInt8)
  | [], current => if current.isEmpty then [] else [current.reverse]
  | b :: bs, current =>
    if b = 10 then (b :: current).reverse :: linesWithBreaks bs [] else linesWithBreaks bs (b :: current)

/-- The byte offset of a line and column, both counted from one: the lengths
of the lines before, and the column less one within the line (at most its
length).  Line zero is offset zero; a line past the end is the text's length. -/
def offsetOf (bytes : List UInt8) (line column : Nat) : Nat :=
  if line = 0 then 0 else go (linesWithBreaks bytes) 1 0
where
  go : List (List UInt8) → Nat → Nat → Nat
    | [], _, acc => acc
    | l :: ls, i, acc => if i = line then acc + min (column - 1) l.length else go ls (i + 1) (acc + l.length)

/-- A version is supported when its text before the first `.` is exactly `3`. -/
def supportedVersion (version : String) : Bool :=
  (version.splitOn ".").head? == some "3"

/-- Read a text in a notation. -/
def readIn (name content : String) : SourceFormat → Except ParseError Document
  | .json =>
    match Json.readDocument content with
    | .ok d => .ok d
    | .error e =>
      let (line, column) := e.position.getD (0, 0)
      let offset := min (offsetOf content.toUTF8.toList line column) content.utf8ByteSize
      .error (.malformed name .json e.message offset)
  | .yaml =>
    match Yaml.readDocument content with
    | .ok d => .ok d
    | .error e => .error (.malformed name .yaml e.message (min e.offset content.utf8ByteSize))

/-- Read a text as an OpenAPI 3 document. -/
def parseDocument (name content : String) (format : SourceFormat) : Except ParseError Document := do
  if Text.trim content.toList = [] then throw (.empty name)
  let d ← readIn name content format
  match d.openapi with
  | none => throw (.missingVersion name)
  | some v => if supportedVersion v then pure d else throw (.unsupportedVersion name v)

end OpenApiLint
