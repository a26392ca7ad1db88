import OpenApiLint.Yaml.Token
import OpenApiLint.Text.Utf8
/-!
# YAML scanning

The scanner cuts a YAML text into tokens.  Most tokens are announced by
their first character; three kinds need a look back:

* a *simple key* — a scalar, flow collection, anchor or tag on one line
  that turns out to be followed by `:` — gets its `KEY` token (and, in block
  context, a `BLOCK-MAPPING-START` token when the indentation grows)
  inserted in front of it when the `:` is found;
* block collections open when a line is indented deeper than the current
  level, and close (`BLOCK-END`) when a line is indented less.

So a token is only handed on once no pending simple key could still be
placed in front of it.  `tokenize` hands tokens on in exactly that order and
stops at the first error, so that a reader of the tokens sees what it would
see when pulling them one by one.

Marks count bytes in `index` and characters in `column`.  A line break read
into a scalar (`readLine`) advances `index` by one for the two- and
three-byte breaks U+0085, U+2028 and U+2029, where stepping over one
(`skipLine`) advances it by the break's width.

## Main definitions

* `Yaml.tokenize` — the tokens of a text, and the error that ended them, if any.
-/

namespace OpenApiLint.Yaml

open Text

/-! ## Characters -/

/-- The left brace. -/
def openBrace : Char := '\x7b'
/-- The right brace. -/
def closeBrace : Char := '\x7d'
/-- The grave accent. -/
def graveAccent : Char := '\x60'
/-- The apostrophe. -/
def apostrophe : Char := '\x27'
/-- The character that stands for the end of the text. -/
def endChar : Char := '\x00'

/-- Line breaks: CR, LF, NEL, and the line and paragraph separators. -/
def isBreak (c : Char) : Bool :=
  c == '\r' || c == '\n' || c == '\x85' || c == '\u2028' || c == '\u2029'

/-- A line break or the end of the text. -/
def isBreakOrEnd (c : Char) : Bool := isBreak c || c == endChar

/-- A space or a tab. -/
def isBlank (c : Char) : Bool := c == ' ' || c == '\t'

/-- A blank, a line break or the end of the text. -/
def isBlankOrEnd (c : Char) : Bool := isBlank c || isBreakOrEnd c

/-- Characters of anchors, handles and directive names: ASCII letters and
digits, `_` and `-`. -/
def isWordChar (c : Char) : Bool := c.isAlphanum || c == '_' || c == '-'

/-- ASCII hexadecimal digits. -/
def isHexDigit (c : Char) : Bool :=
  c.isDigit || ('a' ≤ c && c ≤ 'f') || ('A' ≤ c && c ≤ 'F')

/-- The value of a hexadecimal digit. -/
def hexDigitValue (c : Char) : Nat :=
  if c.isDigit then c.toNat - 48
  else if 'a' ≤ c && c ≤ 'f' then c.toNat - 87
  else c.toNat - 55

/-- Characters that may stand in a tag; `inBrackets` adds `,`, `[` and `]`,
which may stand in a verbatim tag or a directive's expansion. -/
def isUriChar (inBrackets : Bool) (c : Char) : Bool :=
  isWordChar c || ";/?:@&=+$.%!~*()".toList.contains c || c == apostrophe ||
    (inBrackets && (c == ',' || c == '[' || c == ']'))

/-- Characters that may not start a plain scalar on their own. -/
def isIndicator (c : Char) : Bool :=
  "-?:,[]#&*!|>\"%@".toList.contains c || c == openBrace || c == closeBrace || c == apostrophe ||
    c == graveAccent

/-- Characters that end a plain scalar inside a flow collection. -/
def isFlowIndicator (c : Char) : Bool :=
  c == ',' || c == '[' || c == ']' || c == openBrace || c == closeBrace

/-- Characters allowed in a YAML text: tab, line feed, carriage return, the
printable ASCII range, NEL, and the non-control planes except surrogates and
the two non-characters U+FFFE and U+FFFF. -/
def isAllowedPoint (n : Nat) : Bool :=
  n == 9 || n == 10 || n == 13 || (0x20 ≤ n && n ≤ 0x7E) || n == 0x85 ||
    (0xA0 ≤ n && n ≤ 0xD7FF) || (0xE000 ≤ n && n ≤ 0xFFFD) || (0x10000 ≤ n && n ≤ 0x10FFFF)

/-- The byte offset of the first character a YAML text may not hold, counted
from `offset`. -/
def firstDisallowed : List Char → Nat → Option Nat
  | [], _ => none
  | c :: cs, offset =>
    if isAllowedPoint c.toNat then firstDisallowed cs (offset + utf8Width c) else some offset

/-! ## The scanner state -/

/-- A place where a simple key may start. -/
structure SimpleKey where
  possible : Bool := false
  required : Bool := false
  tokenNumber : Nat := 0
  mark : Mark := {}
  deriving Inhabited

/-- The scanner: the text, the position and mark, the flow nesting, the
block indentation levels, the pending simple keys (innermost first) and the
tokens not yet handed on. -/
structure Scanner where
  text : Array Char
  pos : Nat := 0
  mark : Mark := {}
  started : Bool := false
  flowLevel : Nat := 0
  indent : Int := -1
  indents : List Int := []
  simpleKeyAllowed : Bool := false
  simpleKeys : List SimpleKey := []
  queue : List Token := []
  handedOn : Nat := 0

/-- Scanning: a state that an error ends. -/
abbrev Scan := StateT Scanner (Except Problem)

/-- The character `k` places ahead; the end character past the text. -/
def peekAt (k : Nat) : Scan Char := do
  let s ← get
  pure (s.text.getD (s.pos + k) endChar)

/-- The current character. -/
def current : Scan Char := peekAt 0

/-- The current mark. -/
def here : Scan Mark := do pure (← get).mark

/-- The characters left, plus room for the steps that read none. -/
def fuel : Scan Nat := do
  let s ← get
  pure (s.text.size - s.pos + 2)

/-- Fail with a problem at the current mark. -/
def fail {α : Type} (context : Option String) (contextMark : Mark) (problem : String) : Scan α := do
  throw { problem, problemMark := (← get).mark, context, contextMark }

/-- Step over the current character. -/
def skip : Scan Unit := modify fun s =>
  let c := s.text.getD s.pos endChar
  { s with pos := s.pos + 1,
           mark := { s.mark with index := s.mark.index + utf8Width c, column := s.mark.column + 1 } }

/-- Step over a line break; CR LF is one break. -/
def skipLine : Scan Unit := do
  let c ← current
  let d ← peekAt 1
  if c == '\r' && d == '\n' then
    modify fun s => { s with pos := s.pos + 2,
                             mark := { index := s.mark.index + 2, line := s.mark.line + 1, column := 0 } }
  else if isBreak c then
    modify fun s => { s with pos := s.pos + 1,
                             mark := { index := s.mark.index + utf8Width c, line := s.mark.line + 1,
                                       column := 0 } }

/-- Append the current character to `acc` and step over it. -/
def readChar (acc : String) : Scan String := do
  let c ← current
  skip
  pure (acc.push c)

/-- Move to the next line after reading a break of `chars` characters. -/
def nextLine (chars bytes : Nat) (s : Scanner) : Scanner :=
  { s with pos := s.pos + chars,
           mark := { index := s.mark.index + bytes, line := s.mark.line + 1, column := 0 } }

/-- Append a line break to `acc` and step over it: CR LF, CR, LF and NEL
become LF, the separators stay themselves. -/
def readLine (acc : String) : Scan String := do
  let c ← current
  let d ← peekAt 1
  if c == '\r' && d == '\n' then
    modify (nextLine 2 2)
    pure (acc.push '\n')
  else if c == '\r' || c == '\n' || c == '\x85' then
    modify (nextLine 1 (utf8Width c))
    pure (acc.push '\n')
  else if c == '\u2028' || c == '\u2029' then
    modify (nextLine 1 3)
    pure (acc.push c)
  else pure acc

/-- Step over characters while `p` holds. -/
def skipWhile (p : Char → Bool) : Nat → Scan Unit
  | 0 => pure ()
  | n + 1 => do
    if p (← current) then
      skip
      skipWhile p n

/-- Read characters into `acc` while `p` holds. -/
def readWhile (p : Char → Bool) (acc : String) : Nat → Scan String
  | 0 => pure acc
  | n + 1 => do
    if p (← current) then readWhile p (← readChar acc) n else pure acc

/-- Whether the next three characters are `c` and a blank or the end follows. -/
def tripleAhead (c : Char) : Scan Bool := do
  pure ((← peekAt 0) == c && (← peekAt 1) == c && (← peekAt 2) == c && isBlankOrEnd (← peekAt 3))

/-- A document marker (`---` or `...`) at the start of a line. -/
def atDocumentMarker : Scan Bool := do
  if (← here).column != 0 then pure false
  else pure ((← tripleAhead '-') || (← tripleAhead '.'))

/-! ## The token queue and simple keys -/

/-- Queue a token. -/
def enqueue (t : Token) : Scan Unit := modify fun s => { s with queue := s.queue ++ [t] }

/-- Queue a token of the current mark. -/
def enqueueHere (kind : TokenKind) : Scan Unit := do
  let m ← here
  enqueue ⟨kind, m, m⟩

/-- Queue a one-character token. -/
def enqueueChar (kind : TokenKind) : Scan Unit := do
  let start ← here
  skip
  enqueue ⟨kind, start, ← here⟩

/-- The innermost pending simple key. -/
def topKey : Scan SimpleKey := do pure ((← get).simpleKeys.headD {})

/-- Replace the innermost pending simple key. -/
def setTopKey (k : SimpleKey) : Scan Unit := modify fun s =>
  { s with simpleKeys := match s.simpleKeys with
    | [] => [k]
    | _ :: rest => k :: rest }

/-- A simple key that must be one was not followed by `:`. -/
def missingColon {α : Type} (k : SimpleKey) : Scan α :=
  fail (some "while scanning a simple key") k.mark "could not find expected ':'"

/-- Drop the innermost pending simple key; a required one is an error. -/
def removeSimpleKey : Scan Unit := do
  let k ← topKey
  if k.possible && k.required then missingColon k
  setTopKey { k with possible := false }

/-- Note that a simple key may start here, if one may.  In block context it
must be one when it stands at the indentation column. -/
def saveSimpleKey : Scan Unit := do
  let s ← get
  if s.simpleKeyAllowed then
    let k : SimpleKey := { possible := true,
                           required := s.flowLevel == 0 && s.indent == (s.mark.column : Int),
                           tokenNumber := s.handedOn + s.queue.length, mark := s.mark }
    removeSimpleKey
    setTopKey k

/-- Give up simple keys that can no longer be: a key spans one line and at
most 1024 bytes. -/
def staleSimpleKeys : Scan Unit := do
  let s ← get
  let keys ← s.simpleKeys.reverse.mapM fun k => do
    if k.possible && (k.mark.line < s.mark.line || k.mark.index + 1024 < s.mark.index) then
      if k.required then missingColon k
      pure { k with possible := false }
    else pure k
  modify fun s => { s with simpleKeys := keys.reverse }

/-- Open a flow collection: a new level of simple keys. -/
def increaseFlowLevel : Scan Unit := modify fun s =>
  { s with simpleKeys := {} :: s.simpleKeys, flowLevel := s.flowLevel + 1 }

/-- Close a flow collection. -/
def decreaseFlowLevel : Scan Unit := modify fun s =>
  if s.flowLevel > 0 then { s with flowLevel := s.flowLevel - 1, simpleKeys := s.simpleKeys.tail }
  else s

/-! ## Indentation -/

/-- In block context, close the block collections indented deeper than `column`. -/
def unrollIndent (column : Int) : Nat → Scan Unit
  | 0 => pure ()
  | n + 1 => do
    let s ← get
    if s.flowLevel == 0 && s.indent > column then
      enqueueHere .blockEnd
      modify fun s => { s with indent := s.indents.headD (-1), indents := s.indents.tail }
      unrollIndent column n

/-- Close block collections down to `column`. -/
def unrollTo (column : Int) : Scan Unit := do
  unrollIndent column ((← get).indents.length + 1)

/-- In block context, open a block collection at `column` if that is deeper
than the current level: its start token is queued last, or placed before
token number `number` when a simple key is being turned into a key. -/
def rollIndent (column : Int) (number : Option Nat) (kind : TokenKind) (m : Mark) : Scan Unit := do
  let s ← get
  if s.flowLevel == 0 && s.indent < column then
    set { s with indents := s.indent :: s.indents, indent := column }
    match number with
    | none => enqueue ⟨kind, m, m⟩
    | some n => modify fun s => { s with queue := s.queue.insertIdx (n - s.handedOn) ⟨kind, m, m⟩ }

/-! ## Between tokens -/

/-- Step over white space, comments and line breaks.  Tabs are skipped only
in flow context or where no simple key may start; a new line in block
context may start one. -/
def scanToNextToken : Nat → Scan Unit
  | 0 => pure ()
  | n + 1 => do
    if (← here).column == 0 && (← current) == '\uFEFF' then skip
    let s ← get
    let tabsOk := s.flowLevel > 0 || !s.simpleKeyAllowed
    skipWhile (fun c => c == ' ' || (tabsOk && c == '\t')) (← fuel)
    if (← current) == '#' then skipWhile (fun c => !isBreakOrEnd c) (← fuel)
    if isBreak (← current) then
      skipLine
      if (← get).flowLevel == 0 then modify fun s => { s with simpleKeyAllowed := true }
      scanToNextToken n

/-! ## Directives -/

/-- One number of a `%YAML` directive: at most nine digits. -/
def scanVersionNumber (start : Mark) : Nat → Nat → Nat → Scan Nat
  | 0, _, value => pure value
  | n + 1, length, value => do
    let c ← current
    if c.isDigit then
      if length + 1 > 9 then
        fail (some "while scanning a %YAML directive") start "found extremely long version number"
      skip
      scanVersionNumber start n (length + 1) (value * 10 + (c.toNat - 48))
    else if length == 0 then
      fail (some "while scanning a %YAML directive") start "did not find expected version number"
    else pure value

/-- The value of a `%YAML` directive: `major.minor`. -/
def scanVersionValue (start : Mark) : Scan (Nat × Nat) := do
  skipWhile isBlank (← fuel)
  let major ← scanVersionNumber start 10 0 0
  if (← current) != '.' then
    fail (some "while scanning a %YAML directive") start "did not find expected digit or '.' character"
  skip
  let minor ← scanVersionNumber start 10 0 0
  pure (major, minor)

/-- A tag handle: `!`, `!!` or `!word!`.  In a tag, a `!word` without the
closing `!` is returned as it is, to be read as the start of the suffix. -/
def scanTagHandle (directive : Bool) (start : Mark) : Scan String := do
  if (← current) != '!' then
    fail (some (if directive then "while scanning a tag directive" else "while scanning a tag")) start
      "did not find expected '!'"
  let h ← readWhile isWordChar (← readChar "") (← fuel)
  if (← current) == '!' then readChar h
  else
    if directive && h != "!" then
      fail (some "while parsing a tag directive") start "did not find expected '!'"
    pure h

/-- The context named by errors in a tag or a directive's expansion. -/
def tagContext (directive : Bool) : String :=
  if directive then "while parsing a %TAG directive" else "while parsing a tag"

/-- The leading octet of a UTF-8 sequence gives its length; zero if it
cannot lead one. -/
def sequenceWidth (octet : Nat) : Nat :=
  if octet &&& 0x80 == 0 then 1
  else if octet &&& 0xE0 == 0xC0 then 2
  else if octet &&& 0xF0 == 0xE0 then 3
  else if octet &&& 0xF8 == 0xF0 then 4
  else 0

/-- `%XX` escapes spelling one UTF-8 sequence; `width` is the number of
octets still to read, zero before the first. -/
def scanUriEscapes (directive : Bool) (start : Mark) : Nat → Nat → List UInt8 → Scan (List UInt8)
  | 0, _, acc => pure acc.reverse
  | n + 1, width, acc => do
    let c1 ← peekAt 1
    let c2 ← peekAt 2
    if !((← current) == '%' && isHexDigit c1 && isHexDigit c2) then
      fail (some (tagContext directive)) start "did not find URI escaped octet"
    let octet := hexDigitValue c1 * 16 + hexDigitValue c2
    let width ← if width == 0 then do
        let w := sequenceWidth octet
        if w == 0 then fail (some (tagContext directive)) start "found an incorrect leading UTF-8 octet"
        pure w
      else do
        if octet &&& 0xC0 != 0x80 then
          fail (some (tagContext directive)) start "found an incorrect trailing UTF-8 octet"
        pure width
    skip
    skip
    skip
    let acc := octet.toUInt8 :: acc
    if width == 1 then pure acc.reverse else scanUriEscapes directive start n (width - 1) acc

/-- Read the characters of a tag or an expansion after `acc`. -/
def scanUriChars (inBrackets directive : Bool) (start : Mark) :
    Nat → Nat → List UInt8 → Scan (Nat × List UInt8)
  | 0, length, acc => pure (length, acc)
  | n + 1, length, acc => do
    let c ← current
    if isUriChar inBrackets c then
      let acc ← if c == '%' then do pure (acc ++ (← scanUriEscapes directive start 4 0 []))
        else do
          skip
          pure (acc ++ encodeChar c)
      scanUriChars inBrackets directive start n (length + 1) acc
    else pure (length, acc)

/-- A tag's suffix or an expansion, after `head` (a handle that was not one,
whose leading `!` is dropped).  It may not be empty. -/
def scanTagUri (inBrackets directive : Bool) (head : String) (start : Mark) : Scan (List UInt8) := do
  let headBytes := (encodeUtf8 head).drop 1
  let (length, bytes) ← scanUriChars inBrackets directive start (← fuel) head.length headBytes
  if length == 0 then
    fail (some (if directive then "while parsing a %TAG directive" else "while parsing a tag")) start
      "did not find expected tag URI"
  pure bytes

/-- The value of a `%TAG` directive: a handle and its expansion. -/
def scanTagDirectiveValue (start : Mark) : Scan (List UInt8 × List UInt8) := do
  skipWhile isBlank (← fuel)
  let handle ← scanTagHandle true start
  if !isBlank (← current) then
    fail (some "while scanning a %TAG directive") start "did not find expected whitespace"
  skipWhile isBlank (← fuel)
  let expansion ← scanTagUri true true "" start
  if !isBlankOrEnd (← current) then
    fail (some "while scanning a %TAG directive") start "did not find expected whitespace or line break"
  pure (encodeUtf8 handle, expansion)

/-- A directive line: `%YAML` or `%TAG`, then only a comment. -/
def scanDirective : Scan Unit := do
  let start ← here
  skip
  let name ← readWhile isWordChar "" (← fuel)
  if name.isEmpty then
    fail (some "while scanning a directive") start "could not find expected directive name"
  if !isBlankOrEnd (← current) then
    fail (some "while scanning a directive") start "found unexpected non-alphabetical character"
  let kind ← if name == "YAML" then do
      let (major, minor) ← scanVersionValue start
      pure (TokenKind.versionDirective major minor)
    else if name == "TAG" then do
      let (handle, expansion) ← scanTagDirectiveValue start
      pure (TokenKind.tagDirective handle expansion)
    else fail (some "while scanning a directive") start "found unknown directive name"
  let stop ← here
  skipWhile isBlank (← fuel)
  if (← current) == '#' then skipWhile (fun c => !isBreakOrEnd c) (← fuel)
  if !isBreakOrEnd (← current) then
    fail (some "while scanning a directive") start "did not find expected comment or line break"
  if isBreak (← current) then skipLine
  enqueue ⟨kind, start, stop⟩

/-! ## Anchors and tags -/

/-- An anchor `&name` or an alias `*name`: a non-empty word, followed by a
blank or one of `?:,]}%@` and the grave accent. -/
def scanAnchor (isAlias : Bool) : Scan Unit := do
  let start ← here
  skip
  let name ← readWhile isWordChar "" (← fuel)
  let stop ← here
  let c ← current
  if name.isEmpty || !(isBlankOrEnd c || "?:,]%@".toList.contains c || c == closeBrace || c == graveAccent) then
    fail (some (if isAlias then "while scanning an alias" else "while scanning an anchor")) start
      "did not find expected alphabetic or numeric character"
  enqueue ⟨if isAlias then .alias name else .anchor name, start, stop⟩

/-- A tag: verbatim `!<uri>`, `!handle!suffix`, `!suffix`, or `!` alone,
which has an empty handle and the suffix `!`. -/
def scanTag : Scan Unit := do
  let start ← here
  let (handle, suffix) ← if (← peekAt 1) == '<' then do
      skip
      skip
      let suffix ← scanTagUri true false "" start
      if (← current) != '>' then fail (some "while scanning a tag") start "did not find the expected '>'"
      skip
      pure ([], suffix)
    else do
      let h ← scanTagHandle false start
      if h.length > 1 && h.endsWith "!" then
        pure (encodeUtf8 h, ← scanTagUri false false "" start)
      else
        let suffix ← scanTagUri false false h start
        if suffix.isEmpty then pure ([], [33]) else pure ([33], suffix)
  let c ← current
  if !isBlankOrEnd c then
    if (← get).flowLevel == 0 || c != ',' then
      fail (some "while scanning a tag") start "did not find expected whitespace or line break"
  enqueue ⟨.tag handle suffix, start, ← here⟩

/-! ## Block scalars -/

/-- Step over the spaces of an indentation that is shorter than `indent`
(or not yet known, when `indent` is zero). -/
def indentSpaces (indent : Int) : Nat → Scan Unit
  | 0 => pure ()
  | n + 1 => do
    if (indent == 0 || ((← here).column : Int) < indent) && (← current) == ' ' then
      skip
      indentSpaces indent n

/-- Step over indentation and empty lines before a block scalar's line,
collecting the breaks; returns the deepest column reached.  Tabs may not
stand in the indentation. -/
def blockBreaks (start : Mark) (indent : Int) : Nat → Nat → String → Mark → Scan (Nat × String × Mark)
  | 0, deepest, breaks, stop => pure (deepest, breaks, stop)
  | n + 1, deepest, breaks, stop => do
    let short (s : Scanner) := indent == 0 || (s.mark.column : Int) < indent
    indentSpaces indent (← fuel)
    let m ← here
    let deepest := max deepest m.column
    let c ← current
    if short (← get) && c == '\t' then
      fail (some "while scanning a block scalar") start
        "found a tab character where an indentation space is expected"
    if !isBreak c then pure (deepest, breaks, stop)
    else
      let breaks ← readLine breaks
      blockBreaks start indent n deepest breaks (← here)

/-- The breaks before a block scalar's line; with no indentation given, it is
the deepest column reached, at least one more than the enclosing level and
at least one. -/
def scanBlockBreaks (start : Mark) (indent : Int) (breaks : String) : Scan (Int × String × Mark) := do
  let (deepest, breaks, stop) ← blockBreaks start indent (← fuel) 0 breaks (← here)
  let outer := (← get).indent
  let indent := if indent == 0 then max (max (deepest : Int) (outer + 1)) 1 else indent
  pure (indent, breaks, stop)

/-- The lines of a block scalar at its indentation: each line's text, joined
by its break (literal), or folded to a space between two lines that do not
start with a blank (folded). -/
def blockLines (literal : Bool) (start : Mark) (indent : Int) :
    Nat → String → String → String → Mark → Bool → Scan (String × String × String × Mark)
  | 0, text, leading, trailing, stop, _ => pure (text, leading, trailing, stop)
  | n + 1, text, leading, trailing, stop, leadingBlank => do
    let c ← current
    if !(((← here).column : Int) == indent && c != endChar) then
      pure (text, leading, trailing, stop)
    else
      let trailingBlank := isBlank c
      let text :=
        if !literal && leading.startsWith "\n" && !leadingBlank && !trailingBlank then
          if trailing.isEmpty then text.push ' ' else text
        else text ++ leading
      let text := text ++ trailing
      let text ← readWhile (fun c => !isBreakOrEnd c) text (← fuel)
      let leading ← readLine ""
      let (_, trailing, stop) ← scanBlockBreaks start indent ""
      blockLines literal start indent n text leading trailing stop (isBlank c)

/-- The header of a block scalar: a chomping indicator (`+` keeps final
breaks, `-` strips them) and an indentation digit, in either order. -/
def blockHeader (start : Mark) : Scan (Int × Nat) := do
  let digit : Scan Nat := do
    let c ← current
    if c.isDigit then
      if c == '0' then
        fail (some "while scanning a block scalar") start "found an indentation indicator equal to 0"
      skip
      pure (c.toNat - 48)
    else pure 0
  let c ← current
  if c == '+' || c == '-' then
    skip
    pure (if c == '+' then 1 else -1, ← digit)
  else
    let increment ← digit
    let c ← current
    if increment > 0 && (c == '+' || c == '-') then
      skip
      pure (if c == '+' then 1 else -1, increment)
    else pure (0, increment)

/-- A literal (`|`) or folded (`>`) block scalar. -/
def scanBlockScalar (literal : Bool) : Scan Unit := do
  let start ← here
  skip
  let (chomping, increment) ← blockHeader start
  skipWhile isBlank (← fuel)
  if (← current) == '#' then skipWhile (fun c => !isBreakOrEnd c) (← fuel)
  if !isBreakOrEnd (← current) then
    fail (some "while scanning a block scalar") start "did not find expected comment or line break"
  if isBreak (← current) then skipLine
  let outer := (← get).indent
  let given : Int := if increment > 0 then (if outer ≥ 0 then outer + increment else increment) else 0
  let (indent, trailing, stop) ← scanBlockBreaks start given ""
  let (text, leading, trailing, stop) ← blockLines literal start indent (← fuel) "" "" trailing stop false
  let text := if chomping != -1 then text ++ leading else text
  let text := if chomping == 1 then text ++ trailing else text
  enqueue ⟨.scalar text (if literal then .literal else .folded), start, stop⟩

/-! ## Quoted scalars -/

/-- The character a one-letter escape stands for, or the number of hex
digits that follow `x`, `u` and `U`. -/
def escapeOf (c : Char) : Option (Char ⊕ Nat) :=
  if c == '0' then some (.inl '\x00')
  else if c == 'a' then some (.inl '\x07')
  else if c == 'b' then some (.inl '\x08')
  else if c == 't' || c == '\t' then some (.inl '\t')
  else if c == 'n' then some (.inl '\n')
  else if c == 'v' then some (.inl '\x0B')
  else if c == 'f' then some (.inl '\x0C')
  else if c == 'r' then some (.inl '\r')
  else if c == 'e' then some (.inl '\x1B')
  else if c == ' ' then some (.inl ' ')
  else if c == '"' then some (.inl '"')
  else if c == '/' then some (.inl '/')
  else if c == '\\' then some (.inl '\\')
  else if c == 'N' then some (.inl '\x85')
  else if c == '_' then some (.inl '\xA0')
  else if c == 'L' then some (.inl '\u2028')
  else if c == 'P' then some (.inl '\u2029')
  else if c == 'x' then some (.inr 2)
  else if c == 'u' then some (.inr 4)
  else if c == 'U' then some (.inr 8)
  else none

/-- The value of `count` hex digits ahead. -/
def hexAhead (start : Mark) : Nat → Nat → Nat → Scan Nat
  | 0, _, value => pure value
  | count + 1, k, value => do
    let c ← peekAt k
    if !isHexDigit c then
      fail (some "while parsing a quoted scalar") start "did not find expected hexadecimal number"
    hexAhead start count (k + 1) (value * 16 + hexDigitValue c)

/-- The non-blank characters of a quoted scalar, up to a blank, the closing
quote, or an escaped line break (then `true`). -/
def quotedRun (single : Bool) (start : Mark) : Nat → String → Scan (String × Bool)
  | 0, text => pure (text, false)
  | n + 1, text => do
    let c ← current
    let d ← peekAt 1
    if isBlankOrEnd c then pure (text, false)
    else if single && c == apostrophe && d == apostrophe then
      skip
      skip
      quotedRun single start n (text.push apostrophe)
    else if c == (if single then apostrophe else '"') then pure (text, false)
    else if !single && c == '\\' && isBreak d then
      skip
      skipLine
      pure (text, true)
    else if !single && c == '\\' then
      match escapeOf d with
      | none => fail (some "while parsing a quoted scalar") start "found unknown escape character"
      | some (.inl e) =>
        skip
        skip
        quotedRun single start n (text.push e)
      | some (.inr count) =>
        skip
        skip
        let value ← hexAhead start count 0 0
        if (0xD800 ≤ value && value ≤ 0xDFFF) || value > 0x10FFFF then
          fail (some "while parsing a quoted scalar") start "found invalid Unicode character escape code"
        for _ in [0:count] do skip
        quotedRun single start n (text.push (Char.ofNat value))
    else quotedRun single start n (← readChar text)

/-- Blanks and breaks inside a scalar: blanks before the first break are
kept in `spaces`; the first break goes to `leading`, later ones to
`trailing`, and blanks after a break are dropped. -/
def scalarBlanks (plainIndent : Option Int) (start : Mark) :
    Nat → Bool → String → String → String → Scan (Bool × String × String × String)
  | 0, broken, spaces, leading, trailing => pure (broken, spaces, leading, trailing)
  | n + 1, broken, spaces, leading, trailing => do
    let c ← current
    if isBlank c then
      if let some indent := plainIndent then
        if broken && ((← here).column : Int) < indent && c == '\t' then
          fail (some "while scanning a plain scalar") start
            "found a tab character that violates indentation"
      if !broken then scalarBlanks plainIndent start n broken (← readChar spaces) leading trailing
      else
        skip
        scalarBlanks plainIndent start n broken spaces leading trailing
    else if isBreak c then
      if !broken then scalarBlanks plainIndent start n true "" (← readLine leading) trailing
      else scalarBlanks plainIndent start n broken spaces leading (← readLine trailing)
    else pure (broken, spaces, leading, trailing)

/-- Join what stood between two runs of a scalar: one break folds to a
space, more breaks keep all but the first; blanks alone are kept. -/
def joinBlanks (text : String) (broken : Bool) (spaces leading trailing : String) : String :=
  if broken then
    if leading.startsWith "\n" then
      if trailing.isEmpty then text.push ' ' else text ++ trailing
    else text ++ leading ++ trailing
  else text ++ spaces

/-- The body of a quoted scalar, up to its closing quote. -/
def quotedBody (single : Bool) (start : Mark) : Nat → String → Scan String
  | 0, text => pure text
  | n + 1, text => do
    if ← atDocumentMarker then
      fail (some "while scanning a quoted scalar") start "found unexpected document indicator"
    if (← current) == endChar then
      fail (some "while scanning a quoted scalar") start "found unexpected end of stream"
    let (text, broken) ← quotedRun single start (← fuel) text
    if (← current) == (if single then apostrophe else '"') then pure text
    else
      let (broken, spaces, leading, trailing) ← scalarBlanks none start (← fuel) broken "" "" ""
      quotedBody single start n (joinBlanks text broken spaces leading trailing)

/-- A single- or double-quoted scalar. -/
def scanFlowScalar (single : Bool) : Scan Unit := do
  let start ← here
  skip
  let text ← quotedBody single start (← fuel) ""
  skip
  enqueue ⟨.scalar text (if single then .singleQuoted else .doubleQuoted), start, ← here⟩

/-! ## Plain scalars -/

/-- Pending blanks of a plain scalar: whether a break was seen, the blanks
before it, the first break and the later ones. -/
structure Gap where
  broken : Bool := false
  spaces : String := ""
  leading : String := ""
  trailing : String := ""

/-- The non-blank characters of a plain scalar, up to a blank, `: `, or (in
flow context) a flow indicator.  In flow context `:` directly before a flow
indicator or `?` is an error. -/
def plainRun (start : Mark) : Nat → String → Mark → Gap → Scan (String × Mark × Gap)
  | 0, text, stop, gap => pure (text, stop, gap)
  | n + 1, text, stop, gap => do
    let c ← current
    let d ← peekAt 1
    let flow := (← get).flowLevel > 0
    if isBlankOrEnd c then pure (text, stop, gap)
    else if flow && c == ':' && (isFlowIndicator d || d == '?') then
      fail (some "while scanning a plain scalar") start "found unexpected ':'"
    else if (c == ':' && isBlankOrEnd d) || (flow && isFlowIndicator c) then pure (text, stop, gap)
    else
      let (text, gap) :=
        if gap.broken || !gap.spaces.isEmpty then
          (joinBlanks text gap.broken gap.spaces gap.leading gap.trailing, ({} : Gap))
        else (text, gap)
      let text ← readChar text
      plainRun start n text (← here) gap

/-- The runs of a plain scalar: it ends at a document marker, a comment, a
character that ends a run, or (in block context) a line indented less than
`indent`. -/
def plainBody (indent : Int) (start : Mark) : Nat → String → Mark → Gap → Scan (String × Mark × Bool)
  | 0, text, stop, gap => pure (text, stop, gap.broken)
  | n + 1, text, stop, gap => do
    if (← atDocumentMarker) || (← current) == '#' then pure (text, stop, gap.broken)
    else
      let (text, stop, gap) ← plainRun start (← fuel) text stop gap
      let c ← current
      if !(isBlank c || isBreak c) then pure (text, stop, gap.broken)
      else
        let (broken, spaces, leading, trailing) ←
          scalarBlanks (some indent) start (← fuel) gap.broken gap.spaces gap.leading gap.trailing
        let gap : Gap := { broken, spaces, leading, trailing }
        let s ← get
        if s.flowLevel == 0 && (s.mark.column : Int) < indent then pure (text, stop, gap.broken)
        else plainBody indent start n text stop gap

/-- A plain scalar.  Ending after a line break allows a simple key next. -/
def scanPlainScalar : Scan Unit := do
  let indent := (← get).indent + 1
  let start ← here
  let (text, stop, broken) ← plainBody indent start (← fuel) "" start {}
  enqueue ⟨.scalar text .plain, start, stop⟩
  if broken then modify fun s => { s with simpleKeyAllowed := true }

/-! ## Fetching tokens -/

/-- The stream start: block indentation below any column, and a simple key
allowed. -/
def fetchStreamStart : Scan Unit := do
  modify fun s => { s with indent := -1, simpleKeys := {} :: s.simpleKeys, simpleKeyAllowed := true,
                           started := true }
  enqueueHere .streamStart

/-- The stream end, on a line of its own. -/
def fetchStreamEnd : Scan Unit := do
  modify fun s =>
    if s.mark.column != 0 then { s with mark := { s.mark with column := 0, line := s.mark.line + 1 } }
    else s
  unrollTo (-1)
  removeSimpleKey
  modify fun s => { s with simpleKeyAllowed := false }
  enqueueHere .streamEnd

/-- A directive, closing all block collections. -/
def fetchDirective : Scan Unit := do
  unrollTo (-1)
  removeSimpleKey
  modify fun s => { s with simpleKeyAllowed := false }
  scanDirective

/-- `---` or `...`, closing all block collections. -/
def fetchDocumentIndicator (kind : TokenKind) : Scan Unit := do
  unrollTo (-1)
  removeSimpleKey
  modify fun s => { s with simpleKeyAllowed := false }
  let start ← here
  skip
  skip
  skip
  enqueue ⟨kind, start, ← here⟩

/-- `[` or the left brace: it may start a simple key. -/
def fetchFlowCollectionStart (kind : TokenKind) : Scan Unit := do
  saveSimpleKey
  increaseFlowLevel
  modify fun s => { s with simpleKeyAllowed := true }
  enqueueChar kind

/-- `]` or the right brace. -/
def fetchFlowCollectionEnd (kind : TokenKind) : Scan Unit := do
  removeSimpleKey
  decreaseFlowLevel
  modify fun s => { s with simpleKeyAllowed := false }
  enqueueChar kind

/-- `,` in a flow collection. -/
def fetchFlowEntry : Scan Unit := do
  removeSimpleKey
  modify fun s => { s with simpleKeyAllowed := true }
  enqueueChar .flowEntry

/-- `-` followed by a blank: in block context it may open a sequence. -/
def fetchBlockEntry : Scan Unit := do
  let s ← get
  if s.flowLevel == 0 then
    if !s.simpleKeyAllowed then fail none s.mark "block sequence entries are not allowed in this context"
    rollIndent s.mark.column none .blockSequenceStart s.mark
  removeSimpleKey
  modify fun s => { s with simpleKeyAllowed := true }
  enqueueChar .blockEntry

/-- `?`: an explicit key. -/
def fetchKey : Scan Unit := do
  let s ← get
  if s.flowLevel == 0 then
    if !s.simpleKeyAllowed then fail none s.mark "mapping keys are not allowed in this context"
    rollIndent s.mark.column none .blockMappingStart s.mark
  removeSimpleKey
  modify fun s => { s with simpleKeyAllowed := s.flowLevel == 0 }
  enqueueChar .key

/-- `:`: the pending simple key becomes a key, or the value follows an
explicit key. -/
def fetchValue : Scan Unit := do
  let k ← topKey
  if k.possible then
    modify fun s => { s with queue := s.queue.insertIdx (k.tokenNumber - s.handedOn) ⟨.key, k.mark, k.mark⟩ }
    rollIndent k.mark.column (some k.tokenNumber) .blockMappingStart k.mark
    setTopKey { k with possible := false }
    modify fun s => { s with simpleKeyAllowed := false }
  else
    let s ← get
    if s.flowLevel == 0 then
      if !s.simpleKeyAllowed then fail none s.mark "mapping values are not allowed in this context"
      rollIndent s.mark.column none .blockMappingStart s.mark
    modify fun s => { s with simpleKeyAllowed := s.flowLevel == 0 }
  enqueueChar .value

/-- An anchor or an alias; it may start a simple key. -/
def fetchAnchor (isAlias : Bool) : Scan Unit := do
  saveSimpleKey
  modify fun s => { s with simpleKeyAllowed := false }
  scanAnchor isAlias

/-- A tag; it may start a simple key. -/
def fetchTag : Scan Unit := do
  saveSimpleKey
  modify fun s => { s with simpleKeyAllowed := false }
  scanTag

/-- A block scalar. -/
def fetchBlockScalar (literal : Bool) : Scan Unit := do
  removeSimpleKey
  modify fun s => { s with simpleKeyAllowed := true }
  scanBlockScalar literal

/-- A quoted scalar; it may start a simple key. -/
def fetchFlowScalar (single : Bool) : Scan Unit := do
  saveSimpleKey
  modify fun s => { s with simpleKeyAllowed := false }
  scanFlowScalar single

/-- A plain scalar; it may start a simple key. -/
def fetchPlainScalar : Scan Unit := do
  saveSimpleKey
  modify fun s => { s with simpleKeyAllowed := false }
  scanPlainScalar

/-- Whether a plain scalar starts here: not at a blank or an indicator,
except `-` before a non-blank, and in block context `?` and `:` before a
non-blank. -/
def startsPlain (flow : Bool) (c d : Char) : Bool :=
  !(isBlankOrEnd c || isIndicator c) || (c == '-' && !isBlank d) ||
    (!flow && (c == '?' || c == ':') && !isBlankOrEnd d)

/-- Scan the next token, after white space and comments. -/
def fetchNextToken : Scan Unit := do
  if !(← get).started then fetchStreamStart
  else
    scanToNextToken (← fuel)
    staleSimpleKeys
    unrollTo (← here).column
    let c ← current
    let d ← peekAt 1
    let s ← get
    let flow := s.flowLevel > 0
    let lineStart := s.mark.column == 0
    if c == endChar then fetchStreamEnd
    else if lineStart && c == '%' then fetchDirective
    else if lineStart && (← tripleAhead '-') then fetchDocumentIndicator .documentStart
    else if lineStart && (← tripleAhead '.') then fetchDocumentIndicator .documentEnd
    else if c == '[' then fetchFlowCollectionStart .flowSequenceStart
    else if c == openBrace then fetchFlowCollectionStart .flowMappingStart
    else if c == ']' then fetchFlowCollectionEnd .flowSequenceEnd
    else if c == closeBrace then fetchFlowCollectionEnd .flowMappingEnd
    else if c == ',' then fetchFlowEntry
    else if c == '-' && isBlankOrEnd d then fetchBlockEntry
    else if c == '?' && (flow || isBlankOrEnd d) then fetchKey
    else if c == ':' && (flow || isBlankOrEnd d) then fetchValue
    else if c == '*' then fetchAnchor true
    else if c == '&' then fetchAnchor false
    else if c == '!' then fetchTag
    else if c == '|' && !flow then fetchBlockScalar true
    else if c == '>' && !flow then fetchBlockScalar false
    else if c == apostrophe then fetchFlowScalar true
    else if c == '"' then fetchFlowScalar false
    else if startsPlain flow c d then fetchPlainScalar
    else fail (some "while scanning for the next token") s.mark "found character that cannot start any token"

/-- More tokens are needed while none is queued, or while a pending simple
key could still put a token in front of the first queued one. -/
def needMoreTokens : Scan Bool := do
  if (← get).queue.isEmpty then pure true
  else
    staleSimpleKeys
    let s ← get
    pure (s.simpleKeys.any fun k => k.possible && k.tokenNumber == s.handedOn)

/-- Scan until the first queued token may be handed on. -/
def fetchMoreTokens : Nat → Scan Unit
  | 0 => pure ()
  | n + 1 => do
    if ← needMoreTokens then
      fetchNextToken
      fetchMoreTokens n

/-- Hand tokens on one at a time until the stream end or an error. -/
def handOn : Nat → Scanner → Array Token → Array Token × Option Problem
  | 0, _, acc => (acc, none)
  | n + 1, s, acc =>
    match (fetchMoreTokens (4 * (s.text.size - s.pos) + 16)).run s with
    | .error e => (acc, some e)
    | .ok ((), s) =>
      match s.queue with
      | [] => (acc, none)
      | t :: rest =>
        let acc := acc.push t
        if t.kind == .streamEnd then (acc, none)
        else handOn n { s with queue := rest, handedOn := s.handedOn + 1 } acc

/-- The tokens of a text in the order a reader receives them, and the error
that stopped scanning, if any.  A character a YAML text may not hold stops
everything before the first token, reported by its byte offset.  The text is
taken as UTF-8 as it stands: a byte order mark is skipped only where a token
may start at the beginning of a line, and it still takes up a column. -/
def tokenize (input : String) : Array Token × Option Problem :=
  let chars := input.toList
  match firstDisallowed chars 0 with
  | some bad => (#[], some { problem := "control characters are not allowed", offset := bad })
  | none =>
    let s : Scanner := { text := chars.toArray }
    handOn (4 * chars.length + 16) s #[]

end OpenApiLint.Yaml
