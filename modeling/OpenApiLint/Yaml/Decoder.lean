import OpenApiLint.Yaml.Parser
import OpenApiLint.Yaml.Scalar
import OpenApiLint.Document.Decoder
/-!
# Reading YAML text: documents

A YAML text is read in two passes.  First its events are collected, up to
the end of the first document or the first error; anchors are numbered and
resolved so that an alias points at the event it repeats.  Then the document is read
from the events by the primitives of a `Decoder`, each taking one node.

Errors of the second pass name where they happened: the mark of the node,
and a path of map keys and sequence indices from the root (`paths./a.get`).
A reader error found after the events that were read is only reported when
the document itself reads without error; more than one document is an
error too.

Nesting is limited to 128 mappings and sequences, counting from the root and
only in the parts that are read; skipped values may nest deeper.  An empty
plain scalar stands for an empty mapping or sequence.

## Main definitions

* `Yaml.Error` — the errors of reading, with `Error.message` and `Error.offset`.
* `Yaml.decoder` — the primitives.
* `Yaml.readDocument` — a whole text as a document.
-/

namespace OpenApiLint.Yaml

open Number

/-! ## Loaded documents -/

/-- An event of a loaded document; an alias holds the index of the event
it repeats, and `void` stands for a document with no content at all. -/
inductive Node where
  | alias (target : Nat)
  | scalar (tag : Option (List UInt8)) (text : String) (style : ScalarStyle)
  | sequenceStart (tag : Option (List UInt8))
  | sequenceEnd
  | mappingStart (tag : Option (List UInt8))
  | mappingEnd
  | void
  deriving Inhabited

/-- Where a value stands, from the root: each step a map key, a sequence
index, an alias followed, or a key that is not a scalar. -/
inductive Path where
  | root
  | seq (parent : Path) (index : Nat)
  | map (parent : Path) (key : String)
  | alias (parent : Path)
  | unknown (parent : Path)

/-- A path as text: `.` alone for the root, keys joined by `.`, indices in
brackets, `?` for a key that is not a scalar. -/
def Path.text : Path → String
  | .root => "."
  | .seq parent i => parent.text ++ "[" ++ toString i ++ "]"
  | .map parent key =>
    (match parent with
      | .root => ""
      | p => p.text ++ ".") ++ key
  | .alias parent => parent.text
  | .unknown parent =>
    (match parent with
      | .root => ""
      | p => p.text ++ ".") ++ "?"

/-- An error of reading YAML. -/
inductive Error where
  /-- A message, with the mark and path of the node it is about once known. -/
  | custom (text : String) (place : Option (Mark × String))
  /-- An error of the text itself. -/
  | malformed (problem : Problem)
  | endOfStream
  | moreThanOneDocument
  | recursionLimit (mark : Mark)
  | repetitionLimit
  | unknownAnchor (mark : Mark)
  deriving Inhabited

namespace Error

/-- The mark an error points at, if any. -/
def mark? : Error → Option Mark
  | .custom _ (some (m, _)) => some m
  | .malformed p => some p.problemMark
  | .recursionLimit m => some m
  | .unknownAnchor m => some m
  | _ => none

/-- The text of an error.  The path is left out at the root, and a mark at
the very start is left out. -/
def message : Error → String
  | .malformed p => p.message
  | e =>
    let base := match e with
      | .custom t (some (_, path)) => if path == "." then t else path ++ ": " ++ t
      | .custom t none => t
      | .endOfStream => "EOF while parsing a value"
      | .moreThanOneDocument => "deserializing from YAML containing more than one document is not supported"
      | .recursionLimit _ => "recursion limit exceeded"
      | .repetitionLimit => "repetition limit exceeded"
      | .unknownAnchor _ => "unknown anchor"
      | .malformed p => p.message
    match e.mark? with
    | some m => if m.atStart then base else base ++ " at " ++ m.describe
    | none => base

/-- The byte offset an error points at; zero when it has no mark. -/
def offset (e : Error) : Nat := (e.mark?.map Mark.index).getD 0

end Error

/-- The first document's events and marks, the error that ended them if the
document is incomplete, and whether another document follows. -/
structure Loaded where
  events : Array (Node × Mark)
  error : Option Error
  moreDocuments : Bool

/-- The anchors of a document as aliases see them.  An anchor is numbered
by how many distinct names were defined before it, so a name defined again
takes a new number, which a later new name may share; each number names the
last event defined with it, as it stands when the document is complete. -/
structure Anchors where
  numbers : List (String × Nat) := []
  targets : List (Nat × Nat) := []

/-- Define `name` as naming the event at `index`. -/
def Anchors.define (t : Anchors) (name : String) (index : Nat) : Anchors :=
  let number := t.numbers.length
  { numbers := (name, number) :: t.numbers.filter (fun p => p.1 != name),
    targets := (number, index) :: t.targets.filter (fun p => p.1 != number) }

/-- The events of a document with each alias, which holds its anchor's
number, pointed at the event that number names in the end. -/
def Anchors.resolve (t : Anchors) (acc : Array (Node × Mark)) : Array (Node × Mark) :=
  acc.map fun (node, m) => match node with
    | .alias number => (.alias ((t.targets.lookup number).getD 0), m)
    | other => (other, m)

/-- The loaded document made of the events in `acc`. -/
def Anchors.finish (t : Anchors) (acc : Array (Node × Mark)) (error : Option Error)
    (more : Bool) : Loaded :=
  { events := t.resolve acc, error, moreDocuments := more }

/-- Collect the first document's events from `i` on, numbering anchors as
`Anchors` says. -/
def collect (evs : Array Event) (streamError : Option Problem) :
    Nat → Nat → Anchors → Array (Node × Mark) → Loaded
  | 0, _, anchors, acc => anchors.finish acc (streamError.map .malformed) false
  | n + 1, i, anchors, acc =>
    match evs[i]? with
    | none => anchors.finish acc (streamError.map .malformed) false
    | some ev =>
      let named (anchor : Option String) := match anchor with
        | some a => anchors.define a acc.size
        | none => anchors
      match ev.kind with
      | .streamStart | .documentStart => collect evs streamError n (i + 1) anchors acc
      | .streamEnd =>
        let acc := if acc.isEmpty then acc.push (.void, ev.start) else acc
        anchors.finish acc none false
      | .documentEnd =>
        let more := match evs[i + 1]? with
          | some next => !(next.kind == .streamEnd)
          | none => true
        anchors.finish acc none more
      | .alias name =>
        match anchors.numbers.lookup name with
        | some number => collect evs streamError n (i + 1) anchors (acc.push (.alias number, ev.start))
        | none => anchors.finish acc (some (.unknownAnchor ev.start)) false
      | .scalar anchor tag text style =>
        collect evs streamError n (i + 1) (named anchor) (acc.push (.scalar tag text style, ev.start))
      | .sequenceStart anchor tag =>
        collect evs streamError n (i + 1) (named anchor) (acc.push (.sequenceStart tag, ev.start))
      | .sequenceEnd => collect evs streamError n (i + 1) anchors (acc.push (.sequenceEnd, ev.start))
      | .mappingStart anchor tag =>
        collect evs streamError n (i + 1) (named anchor) (acc.push (.mappingStart tag, ev.start))
      | .mappingEnd => collect evs streamError n (i + 1) anchors (acc.push (.mappingEnd, ev.start))

/-- Load the first document of a text. -/
def load (input : String) : Loaded :=
  let (evs, err) := parseEvents input
  collect evs err (evs.size + 1) 0 {} #[]

/-! ## Walking the events -/

/-- What reading a node knows: the document, its path, and the nesting
still allowed. -/
structure Scope where
  doc : Loaded
  path : Path
  depth : Nat

/-- Where reading is: the next event, and the aliases followed so far. -/
structure Cursor where
  pos : Nat
  jumps : Nat

/-- Reading the events of a document. -/
abbrev Walk := ReaderT Scope (StateT Cursor (Except Error))

/-- The next event; past the last, the document's error. -/
def peekEvent : Walk (Node × Mark) := do
  let s ← read
  match s.doc.events[(← get).pos]? with
  | some e => pure e
  | none => throw (s.doc.error.getD .endOfStream)

/-- Take the next event. -/
def nextEvent : Walk (Node × Mark) := do
  let e ← peekEvent
  modify fun c => { c with pos := c.pos + 1 }
  pure e

/-- Read below a path step. -/
def under {α : Type} (step : Path → Path) (x : Walk α) : Walk α :=
  withReader (fun s => { s with path := step s.path }) x

/-- Read the event an alias repeats, then return to after the alias.  Each
document may follow at most a hundred aliases per event. -/
def jump {α : Type} (target : Nat) (x : Walk α) : Walk α := do
  let c ← get
  if c.jumps + 1 > (← read).doc.events.size * 100 then throw .repetitionLimit
  set { c with pos := target, jumps := c.jumps + 1 }
  let r ← under .alias x
  modify fun c' => { c' with pos := c.pos }
  pure r

/-- Give a message its place: the mark of the node being read and the
current path. -/
def placed {α : Type} (m : Mark) (x : Walk α) : Walk α := do
  let path := (← read).path.text
  tryCatch x fun e => match e with
    | .custom t none => throw (.custom t (some (m, path)))
    | e => throw e

/-- Enter a mapping or sequence: one nesting level less inside. -/
def nested {α : Type} (m : Mark) (x : Walk α) : Walk α := do
  let d := (← read).depth
  if d == 0 then throw (.recursionLimit m)
  withReader (fun s => { s with depth := d - 1 }) x

/-- Take the next node's first event, following an alias. -/
def withNode {α : Type} (k : Node → Mark → Walk α) : Walk α := do
  let (ev, m) ← nextEvent
  match ev with
  | .alias target => jump target (do let (ev, m) ← nextEvent; k ev m)
  | _ => k ev m

/-! ## Messages -/

/-- What a resolved scalar is called in a message. -/
def Scalar.found : Scalar → Found
  | .null => .unit
  | .bool b => .bool b
  | .unsigned n => .unsigned n
  | .signed n => .signed n
  | .wide n u => .other ("integer `" ++ toString n ++ "` as " ++ if u then "u128" else "i128")
  | .float x => .float x
  | .text s => .str s

/-- A resolved scalar normalized to text, as a map key or a lenient field: integers
in decimal, doubles in plain form, booleans as words and text as it is; null
is no text (a null key drops its entry).  An integer outside the 64-bit
ranges has no text. -/
def Scalar.normalized : Scalar → Option (Option String)
  | .null => some none
  | .bool b => some (some (toString b))
  | .unsigned n => some (some (toString n))
  | .signed n => some (some (toString n))
  | .float x => some (some x.plainText)
  | .text t => some (some t)
  | .wide _ _ => none

/-- An item of the wrong kind. -/
def mismatch (found : Found) (expected : String) : Error := .custom (invalidType found expected) none

/-- The error for a node that is not what was expected. -/
def unexpected (ev : Node) (expected : String) : Error :=
  match ev with
  | .scalar tag text style =>
    match resolveScalar tag text style with
    | .ok s => mismatch s.found expected
    | .error msg => .custom msg none
  | .sequenceStart _ => mismatch .seq expected
  | .mappingStart _ => mismatch .map expected
  | _ => .endOfStream

/-- A tag that makes a node an enum variant: a local tag (`!name`, or `!`
alone) that is valid text. -/
def isVariantTag : Option (List UInt8) → Bool
  | some (33 :: rest) => (Text.decodeUtf8? (if rest.isEmpty then [33] else rest)).isSome
  | _ => false

/-- Whether a node is an empty plain scalar or no content, which stand for an
empty collection. -/
def isEmptyNode : Node → Bool
  | .scalar _ text .plain => text.isEmpty
  | .void => true
  | _ => false

/-! ## The primitives -/

/-- Skip one node, however deep. -/
def skipNode : Nat → Nat → Walk Unit
  | 0, _ => pure ()
  | n + 1, depth => do
    let (ev, _) ← nextEvent
    let depth := match ev with
      | .sequenceStart _ | .mappingStart _ => depth + 1
      | .sequenceEnd | .mappingEnd => depth - 1
      | _ => depth
    if depth == 0 then pure () else skipNode n depth

/-- Skip the next node. -/
def ignoreNode : Walk Unit := do skipNode ((← read).doc.events.size + 1) 0

/-- Read a node that may be null: an alias is followed; a plain scalar that
is empty or spells null (or has the null tag) is null, as is no content. -/
def optional {α : Type} (x : Walk α) : Walk (Option α) := do
  let decide (ev : Node) : Walk Bool := match ev with
    | .scalar tag text style =>
      if style != .plain then pure true
      else match tag with
        | some t =>
          if t == coreTag "null" then
            if isNullWord text then pure false else throw (.custom (invalidValue text "null") none)
          else pure true
        | none => pure (!text.isEmpty && !isNullWord text)
    | .void => pure false
    | _ => pure true
  let choose (ev : Node) : Walk (Option α) := do
    if ← decide ev then some <$> x
    else
      modify fun c => { c with pos := c.pos + 1 }
      pure none
  let (ev, _) ← peekEvent
  match ev with
  | .alias target =>
    modify fun c => { c with pos := c.pos + 1 }
    jump target (do let (ev, _) ← peekEvent; choose ev)
  | _ => choose ev

/-- The path of a map value: by its key when the key is a scalar. -/
def valueStep (key? : Option String) : Path → Path :=
  match key? with
  | some k => fun p => .map p k
  | none => .unknown

/-- The key of the next entry, as it is written, when it is a scalar. -/
def keyText? : Walk (Option String) := do
  let (ev, _) ← peekEvent
  pure (match ev with
    | .scalar _ text _ => some text
    | _ => none)

/-- Whether the next event ends the mapping or sequence being read. -/
def atEnd : Walk Bool := do
  let (ev, _) ← peekEvent
  pure (match ev with
    | .mappingEnd | .sequenceEnd | .void => true
    | _ => false)

/-- A scalar's text, whatever its tag; anything else is refused. -/
def stringAs (expected : String) : Walk String :=
  withNode fun ev m => placed m do
    match ev with
    | .scalar _ text _ => pure text
    | ev => throw (unexpected ev expected)

/-- Fill a record's fields from a mapping's entries: a known field once,
an unknown one skipped. -/
def fieldsLoop {α : Type} (fields : List String) (setField : Nat → α → Walk α) :
    Nat → List Nat → α → Walk α
  | 0, _, acc => pure acc
  | n + 1, seen, acc => do
    if ← atEnd then pure acc
    else
      let key? ← keyText?
      let key ← stringAs "field identifier"
      match fields.idxOf? key with
      | some i =>
        if seen.contains i then throw (.custom (duplicateField key) none)
        let acc ← under (valueStep key?) (setField i acc)
        fieldsLoop fields setField n (i :: seen) acc
      | none =>
        under (valueStep key?) ignoreNode
        fieldsLoop fields setField n seen acc

/-- A record, from a mapping; an empty node leaves every field. -/
def record {α : Type} (name : String) (fields : List String) (init : α)
    (setField : Nat → α → Walk α) : Walk α :=
  withNode fun ev m => placed m do
    match ev with
    | .mappingStart _ =>
      let r ← nested m (do fieldsLoop fields setField ((← read).doc.events.size + 1) [] init)
      let _ ← nextEvent
      pure r
    | ev => if isEmptyNode ev then pure init else throw (unexpected ev ("struct " ++ name))

/-- The text of a scalar of any type, as a key or a lenient field: numbers
in decimal or plain form, booleans as words; null as `none`. -/
def scalarText : Walk (Option String) :=
  withNode fun ev m => placed m do
    let expected := "a string or scalar value"
    match ev with
    | .scalar tag text style =>
      if isVariantTag tag then throw (mismatch .enum expected)
      match resolveScalar tag text style with
      | .error msg => throw (.custom msg none)
      | .ok s =>
        match s.normalized with
        | some t => pure t
        | none => throw (mismatch s.found expected)
    | .sequenceStart tag =>
      if isVariantTag tag then throw (mismatch .enum expected)
      nested m (throw (mismatch .seq expected))
    | .mappingStart tag =>
      if isVariantTag tag then throw (mismatch .enum expected)
      nested m (throw (mismatch .map expected))
    | _ => pure none

/-- Entries of a mapping, keyed by any scalar; a null key drops its entry. -/
def entriesLoop {α : Type} (item : Walk α) : Nat → Array (String × α) → Walk (Array (String × α))
  | 0, acc => pure acc
  | n + 1, acc => do
    if ← atEnd then pure acc
    else
      let key? ← keyText?
      let key ← scalarText
      let v ← under (valueStep key?) item
      entriesLoop item n (match key with
        | some k => acc.push (k, v)
        | none => acc)

/-- A mapping's entries; an empty node has none. -/
def entries {α : Type} (item : Walk α) : Walk (List (String × α)) :=
  withNode fun ev m => placed m do
    match ev with
    | .mappingStart _ =>
      let r ← nested m (do entriesLoop item ((← read).doc.events.size + 1) #[])
      let _ ← nextEvent
      pure r.toList
    | ev => if isEmptyNode ev then pure [] else throw (unexpected ev "a map")

/-- Items of a sequence, each under its index. -/
def itemsLoop {α : Type} (item : Walk α) : Nat → Nat → Array α → Walk (Array α)
  | 0, _, acc => pure acc
  | n + 1, i, acc => do
    if ← atEnd then pure acc
    else
      let v ← under (.seq · i) item
      itemsLoop item n (i + 1) (acc.push v)

/-- A sequence's items; an empty node has none. -/
def list {α : Type} (item : Walk α) : Walk (List α) :=
  withNode fun ev m => placed m do
    match ev with
    | .sequenceStart _ =>
      let r ← nested m (do itemsLoop item ((← read).doc.events.size + 1) 0 #[])
      let _ ← nextEvent
      pure r.toList
    | ev => if isEmptyNode ev then pure [] else throw (unexpected ev "a sequence")

/-- A string: the text of any scalar. -/
def text : Walk String := stringAs "a string"

/-- Entries of a data object: the first key is wanted as "a string key",
later ones as "a string"; a repeated key keeps its place and takes the new
value. -/
def objectLoop (item : Walk Value) : Nat → Bool → List (String × Value) → Walk (List (String × Value))
  | 0, _, acc => pure acc
  | n + 1, first, acc => do
    if ← atEnd then pure acc
    else
      let key? ← keyText?
      let key ← stringAs (if first then "a string key" else "a string")
      let v ← under (valueStep key?) item
      objectLoop item n false (KeyedList.insert acc key v)

/-- A data value, nested at most `fuel` deep: scalars by the core schema,
with integers beyond 64 bits refused and non-finite floats as null. -/
def value : Nat → Walk Value
  | 0 => throw .endOfStream
  | fuel + 1 =>
    withNode fun ev m => placed m do
      let expected := "any valid JSON value"
      match ev with
      | .scalar tag text style =>
        if isVariantTag tag then throw (mismatch .enum expected)
        match resolveScalar tag text style with
        | .error msg => throw (.custom msg none)
        | .ok s =>
          match s with
          | .null => pure .null
          | .bool b => pure (.bool b)
          | .unsigned n => pure (.int n)
          | .signed n => pure (.int n)
          | .wide .. => throw (.custom "JSON number out of range" none)
          | .float x => pure (Value.ofDouble x)
          | .text t => pure (.str t)
      | .sequenceStart tag =>
        if isVariantTag tag then throw (mismatch .enum expected)
        let items ← nested m (do itemsLoop (value fuel) ((← read).doc.events.size + 1) 0 #[])
        let _ ← nextEvent
        pure (.arr items.toList)
      | .mappingStart tag =>
        if isVariantTag tag then throw (mismatch .enum expected)
        let kvs ← nested m (do objectLoop (value fuel) ((← read).doc.events.size + 1) true [])
        let _ ← nextEvent
        pure (.obj kvs)
      | _ => pure .null

/-- The nesting limit of mappings and sequences. -/
def depthLimit : Nat := 128

/-- The YAML primitives of a decoder. -/
def decoder : Decoder Walk where
  optional := optional
  record := record
  entries := entries
  list := list
  scalarText := scalarText
  text := text
  value := do value ((← read).depth + 1)
  exhausted := do throw (.recursionLimit (← peekEvent).2)

/-- A whole YAML text as a document: its first document must read without
error, the text must have no error, and no second document may follow. -/
def readDocument (input : String) : Except Error Document :=
  let doc := load input
  let scope : Scope := { doc, path := .root, depth := depthLimit }
  match ((decoder.document).run scope).run ⟨0, 0⟩ with
  | .error e => .error e
  | .ok (d, _) =>
    match doc.error with
    | some e => .error e
    | none => if doc.moreDocuments then .error .moreThanOneDocument else .ok d

end OpenApiLint.Yaml
