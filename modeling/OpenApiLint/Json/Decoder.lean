import OpenApiLint.Json.Reader
/-!
# Reading JSON text: documents

The JSON primitives of a `Decoder`.  A record is read from an object, or
from an array whose items fill the fields in order; extra items are an error
and missing ones leave defaults.  Every array and object counts against a
nesting limit of 128, except inside values that are skipped.

When reading inside an array or object fails, the closing bracket is still
looked for, so the error is reported past any white space that follows (or
past a `\x7d` that closes an empty object).

## Main definitions

* `Json.decoder` — the primitives.
* `Json.readDocument` — a whole text as a document.
-/

namespace OpenApiLint.Json

/-- How a found item is named in a JSON message: `null` by that name, and a
double in its data form. -/
def describeFound : Found → String
  | .unit => "null"
  | .float x => "floating point `" ++ x.dataText ++ "`"
  | found => found.describe

/-- The message for an item of the wrong kind, in JSON words. -/
def mismatch (found : Found) (expected : String) : String :=
  "invalid type: " ++ describeFound found ++ ", expected " ++ expected

/-- After items: a `]`, else the error for what stands there. -/
def endSeq : Reader Unit := do
  match ← parseWhitespace with
  | some 93 => eat
  | some 44 =>
    eat
    match ← parseWhitespace with
    | some 93 => failAhead trailingComma
    | _ => failAhead trailingCharacters
  | some _ => failAhead trailingCharacters
  | none => failAhead eofWhileParsingList

/-- After entries: a `\x7d`, else the error for what stands there. -/
def endMap : Reader Unit := do
  match ← parseWhitespace with
  | some 125 => eat
  | some 44 => failAhead trailingComma
  | some _ => failAhead trailingCharacters
  | none => failAhead eofWhileParsingObject

/-- Whether another item follows in an array. -/
def hasNextElement (first : Bool) : Reader Bool := do
  match ← parseWhitespace with
  | none => failAhead eofWhileParsingList
  | some 93 => pure false
  | some b =>
    if first then pure true
    else if b = 44 then
      eat
      match ← parseWhitespace with
      | some 93 => failAhead trailingComma
      | some _ => pure true
      | none => failAhead eofWhileParsingValue
    else failAhead expectedListCommaOrEnd

/-- Whether another entry follows in an object. -/
def hasNextKey (first : Bool) : Reader Bool := do
  match ← parseWhitespace with
  | none => failAhead eofWhileParsingObject
  | some 125 => pure false
  | some b =>
    if first then
      if b = 34 then pure true else failAhead keyMustBeAString
    else if b = 44 then
      eat
      match ← parseWhitespace with
      | some 34 => pure true
      | some 125 => failAhead trailingComma
      | some _ => failAhead keyMustBeAString
      | none => failAhead eofWhileParsingValue
    else failAhead expectedObjectCommaOrEnd

/-- The key of an entry, from its opening quote. -/
def parseKey : Reader String := do eat; parseStr

/-- The colon between a key and its value. -/
def parseObjectColon : Reader Unit := do
  match ← parseWhitespace with
  | some 58 => eat
  | some _ => failAhead expectedColon
  | none => failAhead eofWhileParsingObject

/-- Enter an array or object at the cursor: one nesting level less, the
bracket stepped over; at the limit, an error at the bracket. -/
def enter : Reader Unit := do
  let c ← get
  if c.depth ≤ 1 then failAhead recursionLimitExceeded
  set { c with depth := c.depth - 1, index := c.index + 1 }

/-- Leave a nesting level. -/
def leave : Reader Unit := modify fun c => { c with depth := c.depth + 1 }

/-- Read inside brackets, then the closing bracket whatever happened inside;
the first error wins, placed at the cursor if it has no place yet. -/
def bracketed {α : Type} (body : Reader α) (close : Reader Unit) : Reader α := do
  enter
  let r ← attempt body
  leave
  let e ← attempt close
  match r, e with
  | .ok v, .ok _ => pure v
  | .error err, _ => throw (← fixPosition err)
  | .ok _, .error err => throw (← fixPosition err)

/-- An item of the wrong kind where `expected` was wanted: it is read to be
named, and the error placed after it. -/
def peekInvalidType {α : Type} (expected : String) : Reader α := do
  let found ← match ← parseWhitespace with
    | some 110 => do eat; parseIdent [117, 108, 108]; pure Found.unit
    | some 116 => do eat; parseIdent [114, 117, 101]; pure (Found.bool true)
    | some 102 => do eat; parseIdent [97, 108, 115, 101]; pure (Found.bool false)
    | some 45 => do eat; pure (← parseNumber false).found
    | some 34 => do eat; pure (Found.str (← parseStr))
    | some 91 => pure Found.seq
    | some 123 => pure Found.map
    | some b => if isDigit b then do pure (← parseNumber true).found else failAhead expectedSomeValue
    | none => failAhead eofWhileParsingValue
  throw (← fixPosition { text := mismatch found expected })

/-- Read items until the closing bracket. -/
def itemsLoop {α : Type} (item : Reader α) : Nat → Bool → Array α → Reader (Array α)
  | 0, _, acc => pure acc
  | n + 1, first, acc => do
    if ← hasNextElement first then itemsLoop item n false (acc.push (← item)) else pure acc

/-- Read entries until the closing brace. -/
def entriesLoop {α : Type} (item : Reader α) : Nat → Bool → Array (String × α) →
    Reader (Array (String × α))
  | 0, _, acc => pure acc
  | n + 1, first, acc => do
    if ← hasNextKey first then
      let k ← parseKey
      parseObjectColon
      let v ← item
      entriesLoop item n false (acc.push (k, v))
    else pure acc

/-- Fill fields from array items in order; a missing item leaves the field. -/
def fieldsFromItems {α : Type} (count : Nat) (setField : Nat → α → Reader α) :
    Nat → Bool → α → Reader α
  | i, first, acc =>
    if h : i < count then do
      if ← hasNextElement first then fieldsFromItems count setField (i + 1) false (← setField i acc)
      else fieldsFromItems count setField (i + 1) first acc
    else pure acc
termination_by i => count - i

/-- Fill fields from object entries: a known field once, an unknown one skipped. -/
def fieldsFromEntries {α : Type} (fields : List String) (setField : Nat → α → Reader α) :
    Nat → Bool → List Nat → α → Reader α
  | 0, _, _, acc => pure acc
  | n + 1, first, seen, acc => do
    if ← hasNextKey first then
      let k ← parseKey
      match fields.idxOf? k with
      | some i =>
        if seen.contains i then throw { text := duplicateField k }
        parseObjectColon
        fieldsFromEntries fields setField n false (i :: seen) (← setField i acc)
      | none =>
        parseObjectColon
        ignoreValue
        fieldsFromEntries fields setField n false seen acc
    else pure acc

/-- A record: from an object, or positionally from an array. -/
def record {α : Type} (name : String) (fields : List String) (init : α)
    (setField : Nat → α → Reader α) : Reader α := do
  match ← parseWhitespace with
  | some 91 => bracketed (do fieldsFromItems fields.length setField 0 true init) endSeq
  | some 123 => bracketed (do fieldsFromEntries fields setField (← fuel) true [] init) endMap
  | some _ => peekInvalidType ("struct " ++ name)
  | none => failAhead eofWhileParsingValue

/-- A value that may be `null`. -/
def optional {α : Type} (x : Reader α) : Reader (Option α) := do
  match ← parseWhitespace with
  | some 110 => eat; parseIdent [117, 108, 108]; pure none
  | _ => some <$> x

/-- An object's entries. -/
def entries {α : Type} (item : Reader α) : Reader (List (String × α)) := do
  match ← parseWhitespace with
  | some 123 => bracketed (do pure (← entriesLoop item (← fuel) true #[]).toList) endMap
  | some _ => peekInvalidType "a map"
  | none => failAhead eofWhileParsingValue

/-- An array's items. -/
def list {α : Type} (item : Reader α) : Reader (List α) := do
  match ← parseWhitespace with
  | some 91 => bracketed (do pure (← itemsLoop item (← fuel) true #[]).toList) endSeq
  | some _ => peekInvalidType "a sequence"
  | none => failAhead eofWhileParsingValue

/-- A string. -/
def text : Reader String := do
  match ← parseWhitespace with
  | some 34 => eat; parseStr
  | some _ => peekInvalidType "a string"
  | none => failAhead eofWhileParsingValue

/-- Refuse a bracketed item where a scalar was wanted, after looking for its
closing bracket. -/
def refuseBracketed {α : Type} (found : Found) (close : Reader Unit) : Reader α :=
  bracketed (throw { text := mismatch found "a string or scalar value" }) close

/-- Any scalar as text: numbers in decimal or plain form, booleans as words;
`null` is `none`. -/
def scalarText : Reader (Option String) := do
  match ← parseWhitespace with
  | some 110 => eat; parseIdent [117, 108, 108]; pure none
  | some 116 => eat; parseIdent [114, 117, 101]; pure (some "true")
  | some 102 => eat; parseIdent [97, 108, 115, 101]; pure (some "false")
  | some 45 => eat; pure (some (← parseNumber false).text)
  | some 34 => eat; pure (some (← parseStr))
  | some 91 => refuseBracketed .seq endSeq
  | some 123 => refuseBracketed .map endMap
  | some b => if isDigit b then pure (some (← parseNumber true).text) else failAhead expectedSomeValue
  | none => failAhead eofWhileParsingValue

/-- A data value, nested at most `fuel` deep. -/
def value : Nat → Reader Value
  | 0 => failAhead recursionLimitExceeded
  | fuel + 1 => do
    match ← parseWhitespace with
    | some 110 => eat; parseIdent [117, 108, 108]; pure .null
    | some 116 => eat; parseIdent [114, 117, 101]; pure (.bool true)
    | some 102 => eat; parseIdent [97, 108, 115, 101]; pure (.bool false)
    | some 45 => eat; pure (← parseNumber false).toValue
    | some 34 => eat; pure (.str (← parseStr))
    | some 91 => bracketed (do pure (.arr (← itemsLoop (value fuel) (← Json.fuel) true #[]).toList)) endSeq
    | some 123 =>
      bracketed (do
        let kvs ← entriesLoop (value fuel) (← Json.fuel) true #[]
        pure (.obj (KeyedList.ofList kvs.toList))) endMap
    | some b => if isDigit b then pure (← parseNumber true).toValue else failAhead expectedSomeValue
    | none => failAhead eofWhileParsingValue

/-- The JSON primitives of a decoder. -/
def decoder : Decoder Reader where
  optional := optional
  record := record
  entries := entries
  list := list
  scalarText := scalarText
  text := text
  value := do value ((← get).depth + 1)
  exhausted := failHere recursionLimitExceeded

/-- The nesting limit of arrays and objects. -/
def depthLimit : Nat := 128

/-- A whole JSON text as a document: nothing but white space may follow it. -/
def readDocument (content : String) : Except Error Document :=
  let body : Reader Document := do
    let d ← decoder.document
    match ← parseWhitespace with
    | some _ => failAhead trailingCharacters
    | none => pure d
  (body.run content.toUTF8 |>.run |>.run ⟨0, depthLimit⟩).1

end OpenApiLint.Json
