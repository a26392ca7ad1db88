import OpenApiLint.Toml.Assembly
/-!
# Reading a TOML document

Reading a document reads its statements and builds its tables from them in
order.  The first fault in the text wins: a statement that cannot be applied
is reported at its first character (a header with the label "table header"),
ahead of a syntax fault further on.  A fault found only when the last table
is put into place has no position.

## Main definitions

* `Toml.parseDocument` — the root table of a text, or the report of its first fault.
-/

namespace OpenApiLint.Toml

/-- The span of the character that starts at an offset (all its bytes),
empty at the end of the text. -/
def pointAt (bytes : ByteArray) (offset : Nat) : Span :=
  if offset ≥ bytes.size then ⟨offset, offset⟩
  else
    let continuation := (bytes.extract (offset + 1) (offset + 4)).toList.takeWhile
      fun b => b &&& 0xC0 == 0x80
    ⟨offset, offset + 1 + continuation.length⟩

/-- The report of a refusal at an offset. -/
def Refusal.report (bytes : ByteArray) (r : Refusal) : Report :=
  { message := r.stop.message, span := some (pointAt bytes r.offset) }

/-- Where a statement begins, and the notes of a refusal to apply it. -/
def Statement.origin : Statement → Nat × List Context
  | .pair _ _ _ start => (start, [])
  | .header _ span | .arrayHeader _ span => (span.start, [.label "table header"])

/-- Apply statements in order; a statement that cannot be applied is
reported where it begins. -/
def applyAll (bytes : ByteArray) : Assembly → List Statement → Except Report Assembly
  | a, [] => pure a
  | a, st :: rest =>
    match a.apply st with
    | .ok a' => applyAll bytes a' rest
    | .error c =>
      let (start, contexts) := st.origin
      .error { message := ({ contexts, cause := some c } : Stop).message, span := some (pointAt bytes start) }

/-- The root table of a TOML text, or the report of its first fault. -/
def parseDocument (text : String) : Except Report Table := do
  let bytes := text.toUTF8
  let (statements, refusal) := readStatements bytes
  let a ← applyAll bytes {} statements
  match refusal with
  | some r => .error (r.report bytes)
  | none =>
    match a.finish with
    | .ok t => pure t
    | .error c => .error { message := c.message, span := none }

end OpenApiLint.Toml
