import OpenApiLint.Text.Width
/-!
# Breaking and filling lines

Where a line of text may be broken follows the pair rules of the Unicode line
breaking algorithm, restricted to the classes that diagnostics meet: a line
may end after a run of spaces unless what follows closes something or is
punctuation that hangs on the word before; between two characters it may end
unless the pair belongs together (letters and digits, opening brackets and
what they open, quotation marks and their neighbours, numbers and their
signs, infix punctuation and the word after it).  A hyphen never offers a
break by itself; instead a word is split after every hyphen that stands
between two letters or digits.

Filling puts as many pieces on a line as fit its width, counting the indent,
a piece being cut by columns when it alone is wider than a line.  The first
line has its own indent; the pieces are preceded by an empty one, so that a
first piece too wide for the first line leaves it empty.

## Main definitions

* `Text.BreakClass`, `Text.breakClass` — the classes.
* `Text.breakBefore` — whether a line may end before a character.
* `Text.fill` — a text filled to a width with two indents.
-/

namespace OpenApiLint.Text

/-- The line breaking classes that decide where a line may end. -/
inductive BreakClass where
  | alphabetic
  | numeric
  | space
  | quotation
  | openPunct
  | closePunct
  | closeParen
  | exclamation
  | midSeparator
  | symbol
  | hyphen
  | breakAfter
  | beforeNumber
  | afterNumber
  | ideographic
  | glue
  | nonstarter
  deriving DecidableEq, Inhabited

/-- Small kana and the marks that may not start a line. -/
def isNonstarter (n : Nat) : Bool :=
  [0x3005, 0x3041, 0x3043, 0x3045, 0x3047, 0x3049, 0x3063, 0x3083, 0x3085, 0x3087, 0x308E,
    0x3095, 0x3096, 0x309D, 0x309E, 0x30A1, 0x30A3, 0x30A5, 0x30A7, 0x30A9, 0x30C3, 0x30E3,
    0x30E5, 0x30E7, 0x30EE, 0x30F5, 0x30F6, 0x30FC, 0x30FD, 0x30FE].contains n

/-- Ideographs, kana and Hangul syllables, between any two of which a line
may end. -/
def isIdeographic (n : Nat) : Bool :=
  (0x2E80 ≤ n && n ≤ 0x2FFF) || (0x3040 ≤ n && n ≤ 0x30FF) || (0x3400 ≤ n && n ≤ 0x4DBF) ||
    (0x4E00 ≤ n && n ≤ 0x9FFF) || (0xAC00 ≤ n && n ≤ 0xD7A3) || (0xF900 ≤ n && n ≤ 0xFAFF) ||
    (0x20000 ≤ n && n ≤ 0x3FFFD)

/-- The line breaking class of a character. -/
def breakClass (c : Char) : BreakClass :=
  match c with
  | ' ' => .space
  | '\t' | '|' => .breakAfter
  | '!' | '?' => .exclamation
  | '"' | '\x27' | '\u00AB' | '\u00BB' | '\u2018' | '\u2019' | '\u201C' | '\u201D' => .quotation
  | '(' | '[' | '{' => .openPunct
  | ')' | ']' => .closeParen
  | '}' | '\u3001' | '\u3002' | '\uFF0C' | '\uFF0E' => .closePunct
  | ',' | '.' | ':' | ';' => .midSeparator
  | '-' => .hyphen
  | '/' => .symbol
  | '$' | '+' | '\\' => .beforeNumber
  | '%' => .afterNumber
  | '\u00A0' | '\u2007' | '\u202F' | '\u2060' => .glue
  | c =>
    if c.isDigit then .numeric
    else if isNonstarter c.toNat then .nonstarter
    else if isIdeographic c.toNat then .ideographic
    else .alphabetic

/-- Pairs of classes that stay together around numbers. -/
def numberPair (a b : BreakClass) : Bool :=
  match a, b with
  | .closePunct, .afterNumber | .closeParen, .afterNumber | .closePunct, .beforeNumber
  | .closeParen, .beforeNumber | .numeric, .afterNumber | .numeric, .beforeNumber
  | .afterNumber, .openPunct | .afterNumber, .numeric | .beforeNumber, .openPunct
  | .beforeNumber, .numeric | .hyphen, .numeric | .midSeparator, .numeric | .numeric, .numeric
  | .symbol, .numeric => true
  | _, _ => false

/-- Whether a line may end between two characters that stand next to each
other, of classes `a` and `b`, neither a space. -/
def directBreak (a b : BreakClass) : Bool :=
  if [BreakClass.closePunct, .closeParen, .exclamation, .midSeparator, .symbol].contains b then false
  else if a == .openPunct then false
  else if a == .quotation || b == .quotation then false
  else if (a == .closePunct || a == .closeParen) && b == .nonstarter then false
  else if a == .glue then false
  else if b == .glue && a != .breakAfter && a != .hyphen then false
  else if b == .breakAfter || b == .hyphen || b == .nonstarter then false
  else if numberPair a b then false
  else
    match a, b with
    | .alphabetic, .numeric | .numeric, .alphabetic | .alphabetic, .alphabetic
    | .beforeNumber, .ideographic | .ideographic, .afterNumber
    | .beforeNumber, .alphabetic | .afterNumber, .alphabetic
    | .alphabetic, .beforeNumber | .alphabetic, .afterNumber
    | .midSeparator, .alphabetic
    | .alphabetic, .openPunct | .numeric, .openPunct
    | .closeParen, .alphabetic | .closeParen, .numeric => false
    | _, _ => true

/-- Whether a line may end before a character of class `b`, given the class
of the character before it and of the last one before it that is not a
space.  After spaces a line may end unless `b` closes or hangs on what came
before, or the spaces follow an opening bracket. -/
def breakBefore (before lastWord b : BreakClass) : Bool :=
  if b == .space then false
  else if before == .space then
    if [BreakClass.closePunct, .closeParen, .exclamation, .midSeparator, .symbol].contains b then false
    else if lastWord == .openPunct then false
    else if lastWord == .quotation && b == .openPunct then false
    else if (lastWord == .closePunct || lastWord == .closeParen) && b == .nonstarter then false
    else true
  else directBreak before b

/-- Cut a line at every place where it may end, except right after a
hyphen: `prev` is the character before `cs`, `lastWord` the class of the last
one that is not a space, `piece` the current piece reversed. -/
def cutPieces (prev : Char) (lastWord : BreakClass) (piece : List Char) :
    List Char → List (List Char)
  | [] => [piece.reverse]
  | c :: cs =>
    let cls := breakClass c
    let lastWord' := if cls == .space then lastWord else cls
    if prev != '-' && prev != '\u00AD' && breakBefore (breakClass prev) lastWord cls then
      piece.reverse :: cutPieces c lastWord' [c] cs
    else cutPieces c lastWord' (c :: piece) cs

/-- The pieces of a line between the places where it may end. -/
def pieces (line : String) : List (List Char) :=
  match line.toList with
  | [] => [[]]
  | c :: cs => cutPieces c (breakClass c) [c] cs

/-- A piece of a line to be filled: its text, its width in columns, and the
spaces after it. -/
structure Fragment where
  text : List Char
  width : Nat
  space : Nat
  deriving Inhabited

/-- The width of a list of characters. -/
def widthOf (cs : List Char) : Nat := cs.foldl (fun w c => w + displayWidth c) 0

/-- A fragment of a piece: the trailing spaces are kept apart. -/
def Fragment.ofPiece (cs : List Char) : Fragment :=
  let space := (cs.reverse.takeWhile (· == ' ')).length
  let text := cs.take (cs.length - space)
  { text, width := widthOf text, space }

/-- Whether a character counts as a letter or digit next to a hyphen: ASCII
letters and digits, and any character from U+00C0 on. -/
def isWordChar (c : Char) : Bool := c.isAlphanum || c.toNat ≥ 0xC0

/-- Split a text after each hyphen that stands between two word characters;
`prev` is the character before `cs`, `part` the current part reversed. -/
def splitHyphens (prev : Char) (part : List Char) : List Char → List (List Char)
  | [] => [part.reverse]
  | c :: cs =>
    match cs with
    | next :: _ =>
      if c == '-' && isWordChar prev && isWordChar next then
        (c :: part).reverse :: splitHyphens c [] cs
      else splitHyphens c (c :: part) cs
    | [] => splitHyphens c (c :: part) cs

/-- A fragment split at its hyphens; the last part keeps the spaces. -/
def Fragment.hyphenParts (f : Fragment) : List Fragment :=
  let parts := match f.text with
    | [] => [[]]
    | c :: cs => splitHyphens c [c] cs
  let n := parts.length
  (parts.zipIdx).map fun (p, i) =>
    { text := p, width := widthOf p, space := if i + 1 == n then f.space else 0 }

/-- Cut characters into runs of at most `limit` columns (a run holds at least
one character); `run` is the current run reversed and `width` its width. -/
def cutByWidth (limit : Nat) (run : List Char) (width : Nat) : List Char → List (List Char × Nat)
  | [] => [(run.reverse, width)]
  | c :: cs =>
    let w := displayWidth c
    if width > 0 && width + w > limit then (run.reverse, width) :: cutByWidth limit [c] w cs
    else cutByWidth limit (c :: run) (width + w) cs

/-- A fragment wider than `limit` cut into parts that fit; the last part
keeps the spaces. -/
def Fragment.fitTo (limit : Nat) (f : Fragment) : List Fragment :=
  if f.width ≤ limit then [f]
  else
    let parts := cutByWidth limit [] 0 f.text
    let n := parts.length
    (parts.zipIdx).map fun ((p, w), i) =>
      { text := p, width := w, space := if i + 1 == n then f.space else 0 }

/-- Put fragments on lines, each line taking fragments while they fit:
`first` and `rest` are the widths of the first and the other lines, `line`
the current line reversed, `used` its width with the spaces after each of
its fragments. -/
def firstFit (first rest : Nat) (done : List (List Fragment)) (line : List Fragment) (used : Nat) :
    List Fragment → List (List Fragment)
  | [] => (line.reverse :: done).reverse
  | f :: fs =>
    let limit := if done.isEmpty then first else rest
    if used + f.width > limit && !line.isEmpty then
      firstFit first rest (line.reverse :: done) [f] (f.width + f.space) fs
    else firstFit first rest done (f :: line) (used + f.width + f.space) fs

/-- The text of a filled line: its fragments with the spaces between them,
and none after the last. -/
def lineText (line : List Fragment) : String :=
  let rec go : List Fragment → List Char
    | [] => []
    | [f] => f.text
    | f :: fs => f.text ++ List.replicate f.space ' ' ++ go fs
  String.ofList (go line)

/-- One line of text filled to `width` columns, its first line indented by
`first` and the others by `rest`. -/
def fillLine (width : Nat) (first rest : String) (line : String) : List String :=
  let firstWidth := width - widthOf first.toList
  let restWidth := width - widthOf rest.toList
  let frags := (pieces line).map Fragment.ofPiece
  let frags := (frags.flatMap Fragment.hyphenParts).flatMap (Fragment.fitTo restWidth)
  let frags := if first.isEmpty then frags else { text := [], width := 0, space := 0 } :: frags
  let lines := firstFit firstWidth restWidth [] [] 0 frags
  (lines.zipIdx).map fun (l, i) => (if i == 0 then first else rest) ++ lineText l

/-- A text filled to `width` columns, line by line: the very first line is
indented by `first`, every other by `rest`. -/
def fill (width : Nat) (first rest : String) (text : String) : String :=
  let filled := (text.splitOn "\n").zipIdx.flatMap fun (line, i) =>
    fillLine width (if i == 0 then first else rest) rest line
  "\n".intercalate filled

end OpenApiLint.Text
