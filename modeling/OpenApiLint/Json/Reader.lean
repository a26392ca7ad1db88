import OpenApiLint.Document.Decoder
import OpenApiLint.Text.Utf8
/-!
# Reading JSON text: tokens

A cursor over the bytes of a JSON text, and the reading of its tokens:
white space, the literals, strings with their escapes, and numbers.  Errors
carry the line and column at which they are reported; a column counts bytes.
Two reporting positions are used: *here* (the current index) and *ahead*
(one past it, as long as that is inside the text).

Numbers are read the quick way: the significand is accumulated as a 64-bit
unsigned integer (digits past that are counted in the exponent but otherwise
ignored), converted to a double, and scaled by one multiplication or division
by a power of ten.  Integers that fit stay integers; `-0` is a double.

## Main definitions

* `Json.Reader` — the reading monad: the text, and a cursor that an error leaves where it stood.
* `Json.Number` — a number token.
* `Json.parseStr`, `Json.parseNumber`, `Json.ignoreValue`.
-/

namespace OpenApiLint.Json

open Number

/-- A JSON error: its text and, once known, its line and column. -/
structure Error where
  text : String
  position : Option (Nat × Nat) := none
  deriving Inhabited

/-- The text of an error with its position. -/
def Error.message (e : Error) : String :=
  match e.position with
  | some (line, column) =>
    if line = 0 then e.text else e.text ++ " at line " ++ toString line ++ " column " ++ toString column
  | none => e.text

/-- The cursor: the index of the next byte and the nesting depth still allowed. -/
structure Cursor where
  index : Nat
  depth : Nat

/-- Reading a JSON text. -/
abbrev Reader := ReaderT ByteArray (ExceptT Error (StateM Cursor))

/-! ## Error texts -/

def eofWhileParsingList := "EOF while parsing a list"
def eofWhileParsingObject := "EOF while parsing an object"
def eofWhileParsingString := "EOF while parsing a string"
def eofWhileParsingValue := "EOF while parsing a value"
def expectedColon := "expected `:`"
def expectedListCommaOrEnd := "expected `,` or `]`"
def expectedObjectCommaOrEnd := "expected `,` or `\x7d`"
def expectedSomeIdent := "expected ident"
def expectedSomeValue := "expected value"
def invalidEscape := "invalid escape"
def invalidNumber := "invalid number"
def numberOutOfRange := "number out of range"
def controlCharacter := "control character (\\u0000-\\u001F) found while parsing a string"
def keyMustBeAString := "key must be a string"
def loneLeadingSurrogate := "lone leading surrogate in hex escape"
def trailingComma := "trailing comma"
def trailingCharacters := "trailing characters"
def unexpectedEndOfHexEscape := "unexpected end of hex escape"
def recursionLimitExceeded := "recursion limit exceeded"

/-! ## The cursor -/

/-- The line and column of a byte index: lines count from one, and the column
is the number of bytes since the last newline before the index. -/
def positionOf (bytes : ByteArray) (i : Nat) : Nat × Nat :=
  let step (acc : Nat × Nat × Nat) (b : UInt8) : Nat × Nat × Nat :=
    let (line, start, k) := acc
    if b = 10 then (line + 1, k + 1, k + 1) else (line, start, k + 1)
  let (line, start, _) := (bytes.extract 0 i).toList.foldl step (1, 0, 0)
  (line, i - start)

/-- The current index. -/
def index : Reader Nat := do pure (← get).index

/-- The byte at the cursor. -/
def peek : Reader (Option UInt8) := do
  let bytes ← read
  pure bytes[(← get).index]?

/-- Step over one byte. -/
def eat : Reader Unit := modify fun c => { c with index := c.index + 1 }

/-- The byte at the cursor, stepping over it. -/
def next : Reader (Option UInt8) := do
  let b ← peek
  if b.isSome then eat
  pure b

/-- The byte at the cursor, or zero at the end. -/
def peekOrNull : Reader UInt8 := do pure ((← peek).getD 0)

/-- An error at the current index. -/
def failHere {α : Type} (text : String) : Reader α := do
  throw { text, position := some (positionOf (← read) (← index)) }

/-- An error one byte ahead of the current index. -/
def failAhead {α : Type} (text : String) : Reader α := do
  let bytes ← read
  throw { text, position := some (positionOf bytes (min bytes.size ((← index) + 1))) }

/-- Give an error without a position the current one. -/
def fixPosition (e : Error) : Reader Error := do
  match e.position with
  | some _ => pure e
  | none => pure { e with position := some (positionOf (← read) (← index)) }

/-- Run a step and keep its outcome, success or error, leaving the cursor
where the step left it. -/
def attempt {α : Type} (x : Reader α) : Reader (Except Error α) :=
  tryCatch (do pure (.ok (← x))) fun e => pure (.error e)

/-- An upper bound on the steps of any loop over the rest of the text. -/
def fuel : Reader Nat := do pure ((← read).size - (← index) + 2)

/-- Whether a byte is a decimal digit. -/
def isDigit (b : UInt8) : Bool := 48 ≤ b && b ≤ 57

/-! ## White space and literals -/

/-- Skip spaces, tabs, newlines and carriage returns. -/
def skipSpace : Nat → Reader (Option UInt8)
  | 0 => peek
  | n + 1 => do
    match ← peek with
    | some b => if b = 32 || b = 10 || b = 9 || b = 13 then eat; skipSpace n else pure (some b)
    | none => pure none

/-- Skip white space and look at the next byte. -/
def parseWhitespace : Reader (Option UInt8) := do skipSpace (← fuel)

/-- Read the remaining letters of a literal. -/
def parseIdent : List UInt8 → Reader Unit
  | [] => pure ()
  | b :: rest => do
    match ← next with
    | none => failHere eofWhileParsingValue
    | some c => if c = b then parseIdent rest else failHere expectedSomeIdent

/-! ## Strings -/

/-- The value of a hex digit. -/
def hexValue (b : UInt8) : Option Nat :=
  if isDigit b then some (b.toNat - 48)
  else if 97 ≤ b && b ≤ 102 then some (b.toNat - 87)
  else if 65 ≤ b && b ≤ 70 then some (b.toNat - 55)
  else none

/-- Four hex digits of a `\u` escape. -/
def decodeHexEscape : Reader Nat := do
  let bytes ← read
  let i ← index
  if i + 4 ≤ bytes.size then
    modify fun c => { c with index := i + 4 }
    let digits := (List.range 4).map fun k => bytes[i + k]?.bind hexValue
    match digits with
    | [some a, some b, some c, some d] => pure (((a * 16 + b) * 16 + c) * 16 + d)
    | _ => failHere invalidEscape
  else
    modify fun c => { c with index := bytes.size }
    failHere eofWhileParsingString

/-- The byte at the cursor; the end of the text inside a string is an error. -/
def peekOrEof : Reader UInt8 := do
  match ← peek with
  | some b => pure b
  | none => failHere eofWhileParsingString

/-- The rest of a `\u` escape: a code point, or a pair of surrogates. -/
def parseUnicodeEscape : Reader (List UInt8) := do
  let n ← decodeHexEscape
  if 0xDC00 ≤ n && n ≤ 0xDFFF then failHere loneLeadingSurrogate
  else if n < 0xD800 || n > 0xDBFF then pure (Text.encodePoint n)
  else
    if (← peekOrEof) = 92 then eat else do eat; failHere unexpectedEndOfHexEscape
    if (← peekOrEof) = 117 then eat else do eat; failHere unexpectedEndOfHexEscape
    let n2 ← decodeHexEscape
    if n2 < 0xDC00 || n2 > 0xDFFF then failHere loneLeadingSurrogate
    else pure (Text.encodePoint ((n - 0xD800) * 1024 + (n2 - 0xDC00) + 0x10000))

/-- An escape after its backslash. -/
def parseEscape : Reader (List UInt8) := do
  match ← next with
  | none => failHere eofWhileParsingString
  | some c =>
    match c.toNat with
    | 34 => pure [34] | 92 => pure [92] | 47 => pure [47]
    | 98 => pure [8] | 102 => pure [12] | 110 => pure [10] | 114 => pure [13] | 116 => pure [9]
    | 117 => parseUnicodeEscape
    | _ => failHere invalidEscape

/-- The bytes of a string up to its closing quote. -/
def parseStrBytes : Nat → Array UInt8 → Reader (Array UInt8)
  | 0, acc => pure acc
  | n + 1, acc => do
    match ← peek with
    | none => failHere eofWhileParsingString
    | some b =>
      if b = 34 then eat; pure acc
      else if b = 92 then
        eat
        let bs ← parseEscape
        parseStrBytes n (acc ++ bs.toArray)
      else if b < 32 then eat; failHere controlCharacter
      else eat; parseStrBytes n (acc.push b)

/-- A string after its opening quote. -/
def parseStr : Reader String := do
  let bytes ← parseStrBytes (← fuel) #[]
  pure (Text.decodeLossy bytes.toList)

/-- Skip an escape after its backslash. -/
def ignoreEscape : Reader Unit := do
  match ← next with
  | none => failHere eofWhileParsingString
  | some c =>
    if c = 34 || c = 92 || c = 47 || c = 98 || c = 102 || c = 110 || c = 114 || c = 116 then
      pure ()
    else if c = 117 then do let _ ← decodeHexEscape; pure ()
    else failHere invalidEscape

/-- Skip a string after its opening quote. -/
def ignoreStrLoop : Nat → Reader Unit
  | 0 => pure ()
  | n + 1 => do
    match ← peek with
    | none => failHere eofWhileParsingString
    | some b =>
      if b = 34 then eat
      else if b = 92 then eat; ignoreEscape; ignoreStrLoop n
      else if b < 32 then failHere controlCharacter
      else eat; ignoreStrLoop n

/-- Skip a string after its opening quote. -/
def ignoreStr : Reader Unit := do ignoreStrLoop (← fuel)

/-! ## Numbers -/

/-- A number token: an unsigned or negative 64-bit integer, or a double. -/
inductive Number where
  | unsigned (n : Nat)
  | signed (n : Int)
  | float (x : Binary64)

/-- What a number is, named in a message. -/
def Number.found : Number → Found
  | .unsigned n => .unsigned n
  | .signed n => .signed n
  | .float x => .float x

/-- A number as a data value. -/
def Number.toValue : Number → Value
  | .unsigned n => .int n
  | .signed n => .int n
  | .float x => Value.ofDouble x

/-- A number as text: integers in decimal, doubles in plain form. -/
def Number.text : Number → String
  | .unsigned n => toString n
  | .signed n => toString n
  | .float x => x.plainText

/-- The largest 64-bit unsigned integer. -/
def u64Max : Nat := Nat.pow 2 64 - 1

/-- The largest 32-bit signed integer. -/
def i32Max : Int := 2147483647

/-- Saturate to the 32-bit signed range. -/
def saturate (n : Int) : Int := max (-2147483648) (min i32Max n)

/-- The doubles nearest to `10^0 … 10^308`. -/
def pow10 (k : Nat) : Binary64 := Binary64.ofNat (Nat.pow 10 k)

/-- Scale a significand by a power of ten, one rounding per step; too large is
an error. -/
def scaleLoop : Nat → Bool → Binary64 → Int → Reader Binary64
  | 0, positive, f, _ => pure (f.withSign (!positive))
  | n + 1, positive, f, exponent => do
    let k := exponent.natAbs
    if k ≤ 308 then
      if exponent ≥ 0 then
        let g := f.mul (pow10 k)
        if g.isInfinite then failHere numberOutOfRange
        else pure (g.withSign (!positive))
      else pure ((f.div (pow10 k)).withSign (!positive))
    else if f.mantissa = 0 then pure (f.withSign (!positive))
    else if exponent ≥ 0 then failHere numberOutOfRange
    else scaleLoop n positive (f.div (pow10 308)) (exponent + 308)

/-- The double of `significand · 10^exponent`. -/
def fromParts (positive : Bool) (significand : Nat) (exponent : Int) : Reader Binary64 :=
  scaleLoop 8 positive (Binary64.ofNat significand) exponent

/-- Skip decimal digits. -/
def skipDigits : Nat → Reader Unit
  | 0 => pure ()
  | n + 1 => do
    if isDigit (← peekOrNull) then eat; skipDigits n else pure ()

/-- The exponent part of a double, from its `e`. -/
def parseExponent (positive : Bool) (significand : Nat) (startingExp : Int) : Reader Binary64 := do
  eat
  let b ← peekOrNull
  let positiveExp ← if b = 43 then do eat; pure true
    else if b = 45 then do eat; pure false
    else pure true
  match ← next with
  | none => failHere eofWhileParsingValue
  | some c =>
    if !isDigit c then failHere invalidNumber
    else
      let rec digits : Nat → Int → Reader (Option Int)
        | 0, e => pure (some e)
        | n + 1, e => do
          let d ← peekOrNull
          if isDigit d then
            eat
            let e' := e * 10 + (d.toNat - 48)
            if e' > i32Max then pure none else digits n e'
          else pure (some e)
      match ← digits (← fuel) (c.toNat - 48) with
      | some e =>
        let final := if positiveExp then saturate (startingExp + e) else saturate (startingExp - e)
        fromParts positive significand final
      | none =>
        if significand ≠ 0 && positiveExp then failHere numberOutOfRange
        else
          skipDigits (← fuel)
          pure ((if positive then Binary64.zero else Binary64.zero.neg))

/-- Digits after a point, once the significand is full: ignored. -/
def parseDecimalOverflow (positive : Bool) (significand : Nat) (exponent : Int) :
    Reader Binary64 := do
  skipDigits (← fuel)
  let b ← peekOrNull
  if b = 101 || b = 69 then parseExponent positive significand exponent
  else fromParts positive significand exponent

/-- The fraction of a double, from its point. -/
def parseDecimal (positive : Bool) (significand : Nat) (before : Int) : Reader Binary64 := do
  eat
  let rec digits : Nat → Nat → Int → Reader (Sum (Nat × Int) (Nat × Int))
    | 0, s, e => pure (.inl (s, e))
    | n + 1, s, e => do
      let d ← peekOrNull
      if isDigit d then
        let s' := s * 10 + (d.toNat - 48)
        if s' > u64Max then pure (.inr (s, e))
        else eat; digits n s' (e - 1)
      else pure (.inl (s, e))
  match ← digits (← fuel) significand 0 with
  | .inr (s, after) => parseDecimalOverflow positive s (before + after)
  | .inl (s, after) =>
    if after = 0 then
      match ← peek with
      | some _ => failAhead invalidNumber
      | none => failAhead eofWhileParsingValue
    else
      let b ← peekOrNull
      if b = 101 || b = 69 then parseExponent positive s (before + after)
      else fromParts positive s (before + after)

/-- Integer digits past the 64-bit range: counted, not kept. -/
def parseLongInteger (positive : Bool) (significand : Nat) : Reader Binary64 := do
  let rec count : Nat → Int → Reader Binary64
    | 0, e => fromParts positive significand e
    | n + 1, e => do
      let b ← peekOrNull
      if isDigit b then eat; count n (e + 1)
      else if b = 46 then parseDecimal positive significand e
      else if b = 101 || b = 69 then parseExponent positive significand e
      else fromParts positive significand e
  count (← fuel) 0

/-- A number with its integer part read: an integer, or a double if a point or
exponent follows.  A negative integer beyond the 64-bit range is a double. -/
def parseNumberTail (positive : Bool) (significand : Nat) : Reader Number := do
  let b ← peekOrNull
  if b = 46 then pure (.float (← parseDecimal positive significand 0))
  else if b = 101 || b = 69 then pure (.float (← parseExponent positive significand 0))
  else if positive then pure (.unsigned significand)
  else if significand = 0 then pure (.float Binary64.zero.neg)
  else if significand ≤ Nat.pow 2 63 then pure (.signed (-(significand : Int)))
  else pure (.float (Binary64.ofNat significand).neg)

/-- A number after its sign. -/
def parseNumber (positive : Bool) : Reader Number := do
  match ← next with
  | none => failHere eofWhileParsingValue
  | some c =>
    if c = 48 then
      if isDigit (← peekOrNull) then failAhead invalidNumber
      else parseNumberTail positive 0
    else if isDigit c then
      let rec digits : Nat → Nat → Reader Number
        | 0, s => parseNumberTail positive s
        | n + 1, s => do
          let d ← peekOrNull
          if isDigit d then
            let s' := s * 10 + (d.toNat - 48)
            if s' > u64Max then pure (.float (← parseLongInteger positive s))
            else eat; digits n s'
          else parseNumberTail positive s
      digits (← fuel) (c.toNat - 48)
    else failHere invalidNumber

/-- Skip an exponent from its `e`. -/
def ignoreExponent : Reader Unit := do
  eat
  let b ← peekOrNull
  if b = 43 || b = 45 then eat
  let c := (← next).getD 0
  if !isDigit c then failHere invalidNumber
  skipDigits (← fuel)

/-- Skip a fraction from its point. -/
def ignoreDecimal : Reader Unit := do
  eat
  if !isDigit (← peekOrNull) then failAhead invalidNumber
  skipDigits (← fuel)
  let b ← peekOrNull
  if b = 101 || b = 69 then ignoreExponent

/-- Skip a number after its sign. -/
def ignoreInteger : Reader Unit := do
  let c := (← next).getD 0
  if c = 48 then
    if isDigit (← peekOrNull) then failAhead invalidNumber
  else if isDigit c then skipDigits (← fuel)
  else failHere invalidNumber
  let b ← peekOrNull
  if b = 46 then ignoreDecimal
  else if b = 101 || b = 69 then ignoreExponent

/-! ## Skipping a whole value -/

/-- Close brackets and read separators until the next value starts: `none`
when the outermost bracket closed, else the new innermost frame. -/
def closeFrames : Nat → List UInt8 → UInt8 → Bool → Reader (Option (List UInt8 × UInt8))
  | 0, _, _, _ => pure none
  | n + 1, stack, frame, acceptComma => do
    match ← parseWhitespace with
    | some b =>
      if b = 44 && acceptComma then eat; pure (some (stack, frame))
      else if (b = 93 && frame = 91) || (b = 125 && frame = 123) then
        eat
        match stack with
        | f :: rest => closeFrames n rest f true
        | [] => pure none
      else if acceptComma then
        failAhead (if frame = 91 then expectedListCommaOrEnd else expectedObjectCommaOrEnd)
      else pure (some (stack, frame))
    | none => failAhead (if frame = 91 then eofWhileParsingList else eofWhileParsingObject)

/-- Skip values with an explicit stack of open brackets, at any depth. -/
def ignoreLoop : Nat → List UInt8 → Option UInt8 → Reader Unit
  | 0, _, _ => pure ()
  | n + 1, stack, enclosing => do
    let frame? ← match ← parseWhitespace with
      | none => failAhead eofWhileParsingValue
      | some b =>
        if b = 110 then do eat; parseIdent [117, 108, 108]; pure none
        else if b = 116 then do eat; parseIdent [114, 117, 101]; pure none
        else if b = 102 then do eat; parseIdent [97, 108, 115, 101]; pure none
        else if b = 45 then do eat; ignoreInteger; pure none
        else if isDigit b then do ignoreInteger; pure none
        else if b = 34 then do eat; ignoreStr; pure none
        else if b = 91 || b = 123 then do eat; pure (some b)
        else failAhead expectedSomeValue
    -- a bracket just opened pushes the enclosing one
    let stack := match frame?, enclosing with
      | some _, some e => e :: stack
      | _, _ => stack
    let start : Option (List UInt8 × UInt8 × Bool) := match frame?, enclosing with
      | some f, _ => some (stack, f, false)
      | none, some e => some (stack, e, true)
      | none, none => match stack with
        | f :: rest => some (rest, f, true)
        | [] => none
    match start with
    | none => pure ()
    | some (stack, frame, acceptComma) =>
      match ← closeFrames (← fuel) stack frame acceptComma with
      | none => pure ()
      | some (stack, frame) =>
        if frame = 123 then
          match ← parseWhitespace with
          | some 34 => eat
          | some _ => failAhead keyMustBeAString
          | none => failAhead eofWhileParsingObject
          ignoreStr
          match ← parseWhitespace with
          | some 58 => eat
          | some _ => failAhead expectedColon
          | none => failAhead eofWhileParsingObject
        ignoreLoop n stack (some frame)

/-- Skip one value of any shape; nesting is not limited. -/
def ignoreValue : Reader Unit := do ignoreLoop (2 * (← fuel)) [] none

end OpenApiLint.Json
