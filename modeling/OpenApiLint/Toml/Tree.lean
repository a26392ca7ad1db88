import OpenApiLint.Number.Binary64
/-!
# TOML documents as trees

A TOML document is a table: keys, in the order they first appear, each with a
value, a sub-table or an array of tables.  Every part remembers the byte
range it was written at, because messages about a document point into its
text.  A table also remembers how it came to be: *implicit* tables exist
only because a longer key or header passed through them, and *dotted* ones
were made by a dotted key such as `a.b = 1`.  These two marks decide which
later definitions of the same table are allowed.

## Main definitions

* `Toml.Node` — a value, a table or an array of tables.
* `Toml.Table` — a table with its marks, and the edits that build one.
* `Toml.Datetime.render` — the text of a date, time or both.
-/

namespace OpenApiLint.Toml

open Number

/-- A range of byte offsets into the text, the end excluded. -/
structure Span where
  start : Nat
  stop : Nat
  deriving DecidableEq, Inhabited

/-- A key as written: its name after unquoting, and where it stands. -/
structure Key where
  name : String
  span : Span
  deriving Inhabited

/-- A calendar date. -/
structure Date where
  year : Nat
  month : Nat
  day : Nat
  deriving Inhabited

/-- A time of day; the fraction of a second is kept in nanoseconds. -/
structure Time where
  hour : Nat
  minute : Nat
  second : Nat
  nanosecond : Nat
  deriving Inhabited

/-- The offset of a time from UTC. -/
inductive Offset where
  | utc
  | minutes (m : Int)
  deriving Inhabited

/-- A date, a time, or both, with an optional offset. -/
structure Datetime where
  date : Option Date
  time : Option Time
  offset : Option Offset
  deriving Inhabited

/-- A value, a table or an array of tables.  An inline table is written in
braces inside a line; a table is opened by a header or made on the way to
one.  Tables carry their marks: implicit and dotted. -/
inductive Node where
  | string (text : String) (span : Span)
  | integer (n : Int) (span : Span)
  | float (x : Binary64) (span : Span)
  | boolean (b : Bool) (span : Span)
  | datetime (d : Datetime) (span : Span)
  | array (items : List Node) (span : Span)
  | inlineTable (entries : List (Key × Node)) (implicit dotted : Bool) (span : Option Span)
  | table (entries : List (Key × Node)) (implicit dotted : Bool) (span : Option Span)
  | tables (items : List Node) (span : Option Span)
  deriving Inhabited

namespace Node

/-- Where a node was written, if it was written at one place. -/
def span? : Node → Option Span
  | .string _ s | .integer _ s | .float _ s | .boolean _ s | .datetime _ s | .array _ s => some s
  | .inlineTable _ _ _ s | .table _ _ _ s | .tables _ s => s

/-- The name of a node's kind, as messages give it. -/
def typeName : Node → String
  | .string .. => "string"
  | .integer .. => "integer"
  | .float .. => "float"
  | .boolean .. => "boolean"
  | .datetime .. => "datetime"
  | .array .. => "array"
  | .inlineTable .. => "inline table"
  | .table .. => "table"
  | .tables .. => "array of tables"

end Node

/-- Two digits or more, with leading zeros. -/
def padded (width n : Nat) : String :=
  let ds := Nat.toDigits 10 n
  String.ofList (List.replicate (width - ds.length) '0' ++ ds)

/-- `YYYY-MM-DD`. -/
def Date.render (d : Date) : String := padded 4 d.year ++ "-" ++ padded 2 d.month ++ "-" ++ padded 2 d.day

/-- `HH:MM:SS`, then the fraction of a second without trailing zeros. -/
def Time.render (t : Time) : String :=
  let base := padded 2 t.hour ++ ":" ++ padded 2 t.minute ++ ":" ++ padded 2 t.second
  if t.nanosecond = 0 then base
  else base ++ "." ++ String.ofList ((padded 9 t.nanosecond).toList.reverse.dropWhile (· == '0')).reverse

/-- `Z`, or a sign and `HH:MM`. -/
def Offset.render : Offset → String
  | .utc => "Z"
  | .minutes m =>
    let sign := if m < 0 then "-" else "+"
    let a := m.natAbs
    sign ++ padded 2 (a / 60) ++ ":" ++ padded 2 (a % 60)

/-- The date, a `T` before the time when both are present, and the offset. -/
def Datetime.render (d : Datetime) : String :=
  (d.date.map Date.render).getD "" ++
    (match d.time with
     | some t => (if d.date.isSome then "T" else "") ++ t.render
     | none => "") ++
    (d.offset.map Offset.render).getD ""

/-- A table under construction: its entries in order of first appearance and
its marks. -/
structure Table where
  entries : List (Key × Node) := []
  implicit : Bool := false
  dotted : Bool := false
  span : Option Span := none
  deriving Inhabited

namespace Table

/-- The table as a node. -/
def toNode (t : Table) : Node := .table t.entries t.implicit t.dotted t.span

/-- The node under a name. -/
def get? (t : Table) (name : String) : Option Node :=
  (t.entries.find? (·.1.name == name)).map (·.2)

/-- Set the node under a key: in place, keeping the first spelling of the
key, when the name is present; at the end otherwise. -/
def put (t : Table) (k : Key) (n : Node) : Table :=
  if t.entries.any (·.1.name == k.name) then
    { t with entries := t.entries.map fun (k', n') => if k'.name == k.name then (k', n) else (k', n') }
  else { t with entries := t.entries ++ [(k, n)] }

/-- Remove a name, keeping the order of the others. -/
def remove (t : Table) (name : String) : Table :=
  { t with entries := t.entries.filter (·.1.name != name) }

/-- Whether the table has no entries. -/
def isEmpty (t : Table) : Bool := t.entries.isEmpty

end Table

end OpenApiLint.Toml
