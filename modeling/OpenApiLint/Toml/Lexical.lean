import OpenApiLint.Toml.Cursor
import OpenApiLint.Number.DecimalText
/-!
# Reading TOML text: blanks, strings, numbers, dates and keys

The lexical grammar of TOML 1.0, with the refusals a reader reports:

* blanks are spaces and tabs; a comment runs from `#` to the end of the line
  and may not hold control characters;
* four kinds of string: basic (with escapes), literal, and the multi-line
  forms of both;
* integers in decimal, hexadecimal, octal and binary, with single
  underscores between digits, within 64 bits;
* floats in decimal with a fraction or an exponent, and `inf`, `nan`;
* dates, times and both, as in RFC 3339;
* keys: bare, or quoted like strings, joined by dots.

## Main definitions

* `Toml.string`, `Toml.integer`, `Toml.float`, `Toml.datetime`, `Toml.key`.
-/

namespace OpenApiLint.Toml

open Parse Number

/-! ## Character classes -/

/-- A byte within an inclusive range. -/
def within (lo hi : Nat) (b : UInt8) : Bool := lo ≤ b.toNat && b.toNat ≤ hi

/-- Space or tab. -/
def isBlank (b : UInt8) : Bool := b == 32 || b == 9

/-- What a comment may hold: tab, printable ASCII, and any non-ASCII byte. -/
def isCommentByte (b : UInt8) : Bool := b == 9 || within 32 126 b || within 128 255 b

/-- What a basic string holds unescaped. -/
def isBasicUnescaped (b : UInt8) : Bool :=
  isBlank b || b == 0x21 || within 0x23 0x5B b || within 0x5D 0x7E b || within 128 255 b

/-- What a literal string may hold. -/
def isLiteralByte (b : UInt8) : Bool :=
  b == 9 || within 0x20 0x26 b || within 0x28 0x7E b || within 128 255 b

/-- A decimal digit. -/
def isDigit (b : UInt8) : Bool := within 48 57 b

/-- A hexadecimal digit. -/
def isHexDigit (b : UInt8) : Bool := isDigit b || within 65 70 b || within 97 102 b

/-- A character of a bare key: letters, digits, `-` and `_`. -/
def isBareKeyByte (b : UInt8) : Bool :=
  within 65 90 b || within 97 122 b || isDigit b || b == 45 || b == 95

/-- A sign. -/
def isSign (b : UInt8) : Bool := b == 43 || b == 45

/-- The value of a hexadecimal digit. -/
def hexValue (b : UInt8) : Nat :=
  if isDigit b then b.toNat - 48 else if within 65 70 b then b.toNat - 55 else b.toNat - 87

/-- The number a run of digits spells in a base, underscores skipped. -/
def digitsIn (radix : Nat) (bs : List UInt8) : Nat :=
  (bs.filter (· != 95)).foldl (fun acc b => acc * radix + hexValue b) 0

/-! ## Blanks, comments and line ends -/

/-- Spaces and tabs. -/
def ws : Parse Span := takeWhile 0 none isBlank

/-- A comment, without its line end. -/
def comment : Parse Unit := do
  char '#'
  let _ ← takeWhile 0 none isCommentByte

/-- A line feed, or a carriage return before one.  Any other byte is read
before the refusal. -/
def newline : Parse Unit := do
  let b ← anyByte
  if b == 10 then pure ()
  else if b == 13 then char '\n'
  else refuse

/-- A line end or the end of the text. -/
def lineEnding : Parse Unit := orElse newline atEnd

/-- The rest of a line: blanks, a comment, and its end.  The span covers the
blanks and the comment. -/
def lineTrailing : Parse Span := do
  let start ← here
  let _ ← ws
  let _ ← optional comment
  let stop ← here
  lineEnding
  pure ⟨start, stop⟩

/-- Blanks and line ends. -/
def wsNewline : Parse Unit := do
  let _ ← many (orElse newline (do let _ ← takeWhile 1 none isBlank))

/-- A line end, then blanks and line ends. -/
def wsNewlines : Parse Unit := do
  newline
  wsNewline

/-- Blanks, comments and line ends, as between the items of an array; at most
`fuel` lines.  A comment must end its line. -/
def wsCommentNewlineUpTo : Nat → Parse Unit
  | 0 => pure ()
  | fuel + 1 => do
    let start ← here
    let _ ← ws
    match ← peek? with
    | some 35 => do comment; newline
    | some 10 => newline
    | some 13 => newline
    | _ => return
    if (← here) == start then return
    wsCommentNewlineUpTo fuel

/-- Blanks, comments and line ends. -/
def wsCommentNewline : Parse Unit := do
  wsCommentNewlineUpTo ((← read).size + 1)

/-! ## Strings -/

/-- The characters an escape may name, in the order a refusal lists them. -/
def escapeLetters : List Char := ['b', 'f', 'n', 'r', 't', 'u', 'U', '\\', '"']

/-- `\uXXXX` or `\UXXXXXXXX`: exactly `n` hexadecimal digits naming a
Unicode scalar value. -/
def hexEscape (n : Nat) : Parse String := do
  let start ← here
  let sp ← takeWhile 0 (some n) isHexDigit
  if sp.stop - sp.start != n then do seek start; refuse
  let v := digitsIn 16 ((← read).extract sp.start sp.stop).toList
  if v ≤ 0x10FFFF && !(0xD800 ≤ v && v ≤ 0xDFFF) then pure (Char.ofNat v).toString
  else do seek start; refuseWith .outOfRange

/-- The character after a backslash. -/
def escapeCode : Parse String := do
  let b ← anyByte
  match b.toNat with
  | 98 => pure "\x08"
  | 102 => pure "\x0c"
  | 110 => pure "\n"
  | 114 => pure "\r"
  | 116 => pure "\t"
  | 117 => label "unicode 4-digit hex code" (cut (hexEscape 4))
  | 85 => label "unicode 8-digit hex code" (cut (hexEscape 8))
  | 92 => pure "\\"
  | 34 => pure "\""
  | _ => escapeLetters.foldl (fun p c => expecting (.char c) p) (label "escape sequence" (cut refuse))

/-- An escape sequence. -/
def escaped : Parse String := do
  char '\\'
  escapeCode

/-- A run of unescaped characters, or one escape. -/
def basicChars : Parse String :=
  orElse (do textOf (← takeWhile 1 none isBasicUnescaped)) escaped

/-- A basic string: in double quotes, with escapes. -/
def basicString : Parse String := do
  char '"'
  let parts ← many basicChars
  label "basic string" (cut (char '"'))
  pure (String.join parts)

/-- A literal string: in single quotes, taken as it stands. -/
def literalString : Parse String := label "literal string" do
  char '\x27'
  let sp ← cut (takeWhile 0 none isLiteralByte)
  cut (char '\x27')
  textOf sp

/-- One or two quotes `q` inside a multi-line string, when `term` follows. -/
def quotesBefore (q : String) (term : Parse Unit) : Parse String :=
  orElse (do literal (q ++ q); lookahead term; pure (q ++ q))
    (do literal q; lookahead term; pure q)

/-- A line-ending backslash: it drops the line end and the blanks after it. -/
def escapedLineEnd : Parse Unit := do
  let _ ← many1 (do char '\\'; let _ ← ws; wsNewlines)

/-- A piece of a multi-line basic string: unescaped characters, a
line-ending backslash, an escape, or a line end (read as a line feed). -/
def multilineBasicContent : Parse String :=
  orElse (do textOf (← takeWhile 1 none isBasicUnescaped))
    (orElse (do escapedLineEnd; pure "")
      (orElse escaped (do newline; pure "\n")))

/-- Any byte but a double quote. -/
def notQuote : Parse Unit := do
  let _ ← byteIf (· != 34)

/-- Quotes followed by more content, at most `fuel` times.  Quotes followed
by something that is not content are read but not kept. -/
def quotedRunsUpTo : Nat → Parse String
  | 0 => pure ""
  | fuel + 1 => do
    match ← optional (quotesBefore "\"" notQuote) with
    | none => pure ""
    | some q =>
      match ← optional multilineBasicContent with
      | none => pure ""
      | some c =>
        let more ← many multilineBasicContent
        return q ++ c ++ String.join more ++ (← quotedRunsUpTo fuel)

/-- The body of a multi-line basic string. -/
def multilineBasicBody : Parse String := do
  let first ← many multilineBasicContent
  let runs ← quotedRunsUpTo ((← read).size + 1)
  let last ← optional (quotesBefore "\"" (literal "\"\"\""))
  pure (String.join first ++ runs ++ last.getD "")

/-- A multi-line basic string: in triple double quotes; a line end right
after the opening is dropped. -/
def multilineBasicString : Parse String := label "multiline basic string" do
  literal "\"\"\""
  let _ ← optional newline
  let body ← cut multilineBasicBody
  cut (literal "\"\"\"")
  pure body

/-- A piece of a multi-line literal string: one character or a line end. -/
def multilineLiteralContent : Parse Unit :=
  orElse (do let _ ← byteIf isLiteralByte) newline

/-- Any byte but a single quote. -/
def notApostrophe : Parse Unit := do
  let _ ← byteIf (· != 39)

/-- The body of a multi-line literal string, as a span. -/
def multilineLiteralBody : Parse Span := do
  let start ← here
  let _ ← many multilineLiteralContent
  let _ ← many (do
    let _ ← quotesBefore "\x27" notApostrophe
    let _ ← many1 multilineLiteralContent)
  let _ ← optional (quotesBefore "\x27" (literal "\x27\x27\x27"))
  pure ⟨start, ← here⟩

/-- A multi-line literal string: in triple single quotes; a line end right
after the opening is dropped, and carriage returns before line feeds too. -/
def multilineLiteralString : Parse String := label "multiline literal string" do
  literal "\x27\x27\x27"
  let _ ← optional newline
  let sp ← cut multilineLiteralBody
  cut (literal "\x27\x27\x27")
  return (← textOf sp).replace "\r\n" "\n"

/-- Any of the four kinds of string. -/
def string : Parse String :=
  orElse multilineBasicString (orElse basicString (orElse multilineLiteralString literalString))

/-! ## Numbers -/

/-- One decimal digit. -/
def digit : Parse Unit := do
  let _ ← byteIf isDigit

/-- Digits of a class after a first one, with single underscores between. -/
def moreDigits (isD : UInt8 → Bool) : Parse Unit := do
  let _ ← many (orElse (do let _ ← byteIf isD)
    (do char '_'; expecting (.description "digit") (cut (do let _ ← byteIf isD))))

/-- A decimal integer: a sign, then `0` or digits without a leading zero. -/
def decimalInteger : Parse Span := label "integer" do
  let start ← here
  let _ ← optional (byteIf isSign)
  orElse (do let _ ← byteIf (within 49 57); moreDigits isDigit) digit
  pure ⟨start, ← here⟩

/-- The largest 64-bit signed integer. -/
def int64Max : Int := 9223372036854775807

/-- The smallest 64-bit signed integer. -/
def int64Min : Int := -9223372036854775808

/-- The value of decimal integer text, within 64 bits. -/
def decimalValue (bs : List UInt8) : Except Cause Int :=
  let digits := bs.filter fun b => b != 95
  let (neg, rest) := match digits with
    | 45 :: r => (true, r)
    | 43 :: r => (false, r)
    | r => (false, r)
  let n : Int := digitsIn 10 rest
  let v := if neg then -n else n
  if v > int64Max then .error .tooLarge
  else if v < int64Min then .error .tooSmall
  else .ok v

/-- An integer after a base prefix, within 64 bits. -/
def basedInteger (pre : String) (radix : Nat) (isD : UInt8 → Bool) (name : String) : Parse Int := do
  let start ← here
  let sp ← label name do
    literal pre
    cut (do
      let s ← here
      let _ ← byteIf isD
      moreDigits isD
      pure (⟨s, ← here⟩ : Span))
  let v : Int := digitsIn radix ((← read).extract sp.start sp.stop).toList
  if v > int64Max then do seek start; refuseWith .tooLarge else pure v

/-- An integer: hexadecimal, octal or binary after `0x`, `0o`, `0b`, or decimal. -/
def integer : Parse Int := do
  let p ← here
  let text ← read
  let two := if p + 2 ≤ text.size then (text.extract p (p + 2)).toList else []
  match two with
  | [48, 120] => cut (basedInteger "0x" 16 isHexDigit "hexadecimal integer")
  | [48, 111] => cut (basedInteger "0o" 8 (within 48 55) "octal integer")
  | [48, 98] => cut (basedInteger "0b" 2 (within 48 49) "binary integer")
  | _ => do
    let sp ← decimalInteger
    match decimalValue (text.extract sp.start sp.stop).toList with
    | .ok v => pure v
    | .error c => do seek p; throw { cut := true, cause := some c }

/-- Digits, the first not preceded by an underscore. -/
def zeroPrefixableInteger : Parse Unit := do
  digit
  moreDigits isDigit

/-- A fraction: a point and digits. -/
def fraction : Parse Unit := do
  char '.'
  expecting (.description "digit") (cut zeroPrefixableInteger)

/-- An exponent: `e` or `E`, a sign, digits. -/
def exponent : Parse Unit := do
  let _ ← byteIf fun b => b == 101 || b == 69
  let _ ← optional (byteIf isSign)
  cut zeroPrefixableInteger

/-- The text of a decimal float: an integer part, then an exponent, or a
fraction and an optional exponent. -/
def floatText : Parse Span := do
  let start ← here
  let _ ← decimalInteger
  orElse exponent (do fraction; let _ ← optional exponent)
  pure ⟨start, ← here⟩

/-- `inf` or `nan`, with an optional sign. -/
def specialFloat : Parse Binary64 := do
  let sign ← optional (byteIf isSign)
  let x ← orElse (do literal "inf"; pure Binary64.infinity) (do literal "nan"; pure Binary64.nan)
  pure (if sign == some 45 then x.neg else x)

/-- A float; a decimal one that rounds to positive infinity is refused. -/
def float : Parse Binary64 := label "floating-point number" (orElse
  (do
    let start ← here
    let sp ← floatText
    let bs := ((← read).extract sp.start sp.stop).toList.filter (· != 95)
    let x := (readDecimal (bs.map fun b => Char.ofNat b.toNat)).getD Binary64.nan
    if x.isInfinite && !x.negative then do seek start; throw { cut := true } else pure x)
  specialFloat)

/-! ## Dates and times -/

/-- Exactly `n` decimal digits. -/
def fixedDigits (n : Nat) : Parse Nat := do
  let sp ← takeWhile n (some n) isDigit
  return digitsIn 10 ((← read).extract sp.start sp.stop).toList

/-- Exactly `n` decimal digits spelling a number within `lo .. hi`. -/
def rangedDigits (n lo hi : Nat) : Parse Nat := do
  let start ← here
  let v ← fixedDigits n
  if lo ≤ v && v ≤ hi then pure v else do seek start; refuseWith .outOfRange

/-- The number of days of a month. -/
def daysIn (year month : Nat) : Nat :=
  let leap := year % 4 == 0 && (year % 100 != 0 || year % 400 == 0)
  match month with
  | 2 => if leap then 29 else 28
  | 4 | 6 | 9 | 11 => 30
  | _ => 31

/-- `YYYY-MM-DD`, the day within its month. -/
def fullDate : Parse Date := do
  let year ← fixedDigits 4
  char '-'
  let month ← cut (rangedDigits 2 1 12)
  cut (char '-')
  let dayStart ← here
  let day ← cut (rangedDigits 2 1 31)
  if daysIn year month < day then do seek dayStart; throw { cut := true, cause := some .outOfRange }
  pure ⟨year, month, day⟩

/-- Fractional seconds: a point and digits, of which nine count. -/
def secondFraction : Parse Nat := do
  char '.'
  let sp ← takeWhile 1 none isDigit
  let ds := ((← read).extract sp.start sp.stop).toList.take 9
  pure (digitsIn 10 ds * Nat.pow 10 (9 - ds.length))

/-- `HH:MM:SS` with optional fractional seconds. -/
def partialTime : Parse Time := do
  let hour ← rangedDigits 2 0 23
  char ':'
  cut (do
    let minute ← rangedDigits 2 0 59
    char ':'
    let second ← rangedDigits 2 0 60
    let nano ← optional secondFraction
    pure ⟨hour, minute, second, nano.getD 0⟩)

/-- `Z`, or a sign and `HH:MM`. -/
def timeOffset : Parse Offset := label "time offset" (orElse
  (do let _ ← byteIf fun b => b == 90 || b == 122; pure .utc)
  (do
    let sign ← byteIf isSign
    let (h, m) ← cut (do
      let h ← rangedDigits 2 0 23
      char ':'
      let m ← rangedDigits 2 0 59
      pure (h, m))
    let total : Int := h * 60 + m
    pure (.minutes (if sign == 45 then -total else total))))

/-- A date with an optional time and offset, or a time alone. -/
def datetime : Parse Datetime := orElse
  (label "date-time" do
    let date ← fullDate
    let rest ← optional (do
      let _ ← byteIf fun b => b == 84 || b == 116 || b == 32
      let t ← partialTime
      let o ← optional timeOffset
      pure (t, o))
    match rest with
    | some (t, o) => pure ⟨some date, some t, o⟩
    | none => pure ⟨some date, none, none⟩)
  (label "time" do
    let t ← partialTime
    pure ⟨none, some t, none⟩)

/-! ## Keys -/

/-- The deepest a dotted key may go. -/
def keyDepthLimit : Nat := 80

/-- A bare or quoted key. -/
def simpleKey : Parse Key := do
  let start ← here
  let name ← match ← peek? with
    | some 34 => basicString
    | some 39 => literalString
    | _ => do textOf (← takeWhile 1 none isBareKeyByte)
  pure ⟨name, ⟨start, ← here⟩⟩

/-- A key with the blanks around it. -/
def keyPart : Parse Key := do
  let _ ← ws
  let k ← simpleKey
  let _ ← ws
  pure k

/-- A dotted key: simple keys joined by dots. -/
def key : Parse (List Key) := do
  let start ← here
  let ks ← label "key" (separated1 keyPart (char '.'))
  if keyDepthLimit ≤ ks.length then do seek start; refuseWith .recursionLimit
  pure ks

end OpenApiLint.Toml
