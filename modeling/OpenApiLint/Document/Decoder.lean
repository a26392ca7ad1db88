import OpenApiLint.Document.Basic
import OpenApiLint.Number.Render
import OpenApiLint.Text.Printable
/-!
# Reading a document, whatever the notation

A notation (JSON, YAML) supplies a `Decoder`: how to read an optional part, a
record of named fields, a keyed map, a list, a scalar as text, a string, and a
data value.  This module says once, for every notation, what a document is
made of and how lenient reading is:

* `null` stands for an absent part; a null entry of a map or list disappears;
* maps keep the first position of a key and the last value written to it;
* `openapi` and `info.version` accept any scalar, converted to text;
* schemas nest through their properties.

It also words the mismatch between what was found and what was expected, as
all notations report it.

## Main definitions

* `Decoder` — the primitives of a notation.
* `Decoder.document` — a document, read with them.
* `Found.describe`, `invalidType`.
-/

namespace OpenApiLint

open Number

/-- What a reader found where it expected something else. -/
inductive Found where
  | bool (b : Bool)
  | unsigned (n : Nat)
  | signed (n : Int)
  | float (x : Binary64)
  | str (s : String)
  | unit
  | seq
  | map
  | enum
  | other (text : String)

/-- The text of a double in a message: the plain form, with `.0` added to a
finite value that shows no point. -/
def floatInMessage (x : Binary64) : String :=
  let t := x.plainText
  if x.isFinite && !t.contains '.' then t ++ ".0" else t

/-- How a found item is named in a message. -/
def Found.describe : Found → String
  | .bool b => "boolean `" ++ toString b ++ "`"
  | .unsigned n => "integer `" ++ toString n ++ "`"
  | .signed n => "integer `" ++ toString n ++ "`"
  | .float x => "floating point `" ++ floatInMessage x ++ "`"
  | .str s => "string " ++ Text.debugQuote s
  | .unit => "unit value"
  | .seq => "sequence"
  | .map => "map"
  | .enum => "enum"
  | .other t => t

/-- The message for an item of the wrong kind. -/
def invalidType (found : Found) (expected : String) : String :=
  "invalid type: " ++ found.describe ++ ", expected " ++ expected

/-- The message for a record field given twice. -/
def duplicateField (name : String) : String := "duplicate field `" ++ name ++ "`"

/-- The reading primitives of a notation, in a monad `m`. -/
structure Decoder (m : Type → Type) where
  /-- A part that may be null; null reads as `none`. -/
  optional : {α : Type} → m α → m (Option α)
  /-- A record with the named fields; the callback reads field `i` into the record. -/
  record : {α : Type} → String → List String → α → (Nat → α → m α) → m α
  /-- A map's entries in arrival order, null keys dropped, duplicates kept. -/
  entries : {α : Type} → m α → m (List (String × α))
  /-- A list's items. -/
  list : {α : Type} → m α → m (List α)
  /-- Any scalar as text; null as `none`. -/
  scalarText : m (Option String)
  /-- A string. -/
  text : m String
  /-- A data value. -/
  value : m Value
  /-- Reading went deeper than any document can. -/
  exhausted : {α : Type} → m α

namespace Decoder

variable {m : Type → Type} [Monad m] (D : Decoder m)

/-- A list that may be null, with its null items dropped. -/
def nullableList {α : Type} (item : m α) : m (List α) := do
  let xs ← D.optional (D.list (D.optional item))
  pure ((xs.getD []).filterMap id)

/-- A map that may be null: a key keeps its first position and its last value. -/
def keyedMap {α : Type} (item : m α) : m (List (String × α)) := do
  let kvs ← D.optional (D.entries item)
  pure (KeyedList.ofList (kvs.getD []))

/-- A map that may be null, with the entries whose value is null dropped. -/
def nullableMap {α : Type} (item : m α) : m (List (String × α)) := do
  let kvs ← D.keyedMap (D.optional item)
  pure (kvs.filterMap fun (k, v) => v.map (k, ·))

/-- A string that may be null. -/
def optText : m (Option String) := D.optional D.text

/-- Any scalar as text, null as absent. -/
def lenient : m (Option String) := do
  let s ← D.optional D.scalarText
  pure (s.bind id)

/-- A parameter: `name`, `in`, `schema`. -/
def parameter : m Parameter :=
  D.record "Parameter" ["name", "in", "schema"] {} fun i p =>
    match i with
    | 0 => do pure { p with name := ← D.optText }
    | 1 => do pure { p with location := ← D.optText }
    | _ => do pure { p with schema := ← D.optional D.value }

/-- An operation: `description`, `summary`, `operationId`, `parameters`, `responses`. -/
def operation : m Operation :=
  D.record "Operation" ["description", "summary", "operationId", "parameters", "responses"] {}
    fun i op =>
      match i with
      | 0 => do pure { op with description := ← D.optText }
      | 1 => do pure { op with summary := ← D.optText }
      | 2 => do pure { op with operationId := ← D.optText }
      | 3 => do pure { op with parameters := ← D.nullableList D.parameter }
      | _ => do pure { op with responses := ← D.keyedMap D.value }

/-- A path item: `parameters`, then one optional operation per method. -/
def pathItem : m PathItem :=
  D.record "PathItem" ("parameters" :: Method.all.map Method.fieldName) {} fun i item =>
    match i with
    | 0 => do pure { item with parameters := ← D.nullableList D.parameter }
    | i + 1 => do
      let op ← D.optional D.operation
      pure (item.setOperation ((Method.all[i]?).getD .trace) op)

/-- A schema: `properties` (each a schema or null) and `enum`, nested at most
`fuel` deep. -/
def schema : Nat → m Schema
  | 0 => D.exhausted
  | fuel + 1 =>
    D.record "Schema" ["properties", "enum"] {} fun i s =>
      match i with
      | 0 => do pure { s with properties := ← D.keyedMap (D.optional (schema fuel)) }
      | _ => do pure { s with enumValues := ← D.nullableList D.value }

/-- How deep schemas may nest: more than any notation's nesting limit allows. -/
def schemaDepth : Nat := 128

/-- The components: `schemas`. -/
def components : m Components :=
  D.record "Components" ["schemas"] {} fun _ c => do
    pure { c with schemas := ← D.nullableMap (D.schema schemaDepth) }

/-- The info object: `title`, and `version` as any scalar. -/
def info : m Info :=
  D.record "Info" ["title", "version"] {} fun i inf =>
    match i with
    | 0 => do pure { inf with title := ← D.optText }
    | _ => do pure { inf with version := ← D.lenient }

/-- A document: `openapi` as any scalar, `info`, `paths`, `components`. -/
def document : m Document :=
  D.record "Document" ["openapi", "info", "paths", "components"] {} fun i d =>
    match i with
    | 0 => do pure { d with openapi := ← D.lenient }
    | 1 => do pure { d with info := ← D.optional D.info }
    | 2 => do pure { d with paths := ← D.nullableMap D.pathItem }
    | _ => do pure { d with components := (← D.optional D.components).getD {} }

end Decoder

end OpenApiLint
