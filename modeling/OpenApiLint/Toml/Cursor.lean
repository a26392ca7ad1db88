import OpenApiLint.Toml.Failure
/-!
# Reading TOML text: the cursor and its combinators

A reader looks at the bytes of the text from a position.  A refusal leaves the
position where reading stopped, which is where a report points, unless a
combinator moves it back.  The combinators are the usual ones of a grammar:
a choice tries its alternatives from the same place and gives the last
refusal; an optional part or a repetition stops quietly at a refusal that is
not cut, moving back to where that attempt began; `cut` makes a refusal final.

Every repetition is bounded by the length of the text, since each round reads
at least one byte.

## Main definitions

* `Toml.Parse` — the reading monad.
* `Parse.optional`, `Parse.orElse`, `Parse.many`, `Parse.separated1`, `Parse.cut`.
-/

namespace OpenApiLint.Toml

/-- Reading TOML text: the bytes, and the position of the next one. -/
abbrev Parse := ReaderT ByteArray (ExceptT Stop (StateM Nat))

namespace Parse

variable {α : Type}

/-- The position of the next byte. -/
def here : Parse Nat := get

/-- Move to a position. -/
def seek (p : Nat) : Parse Unit := set p

/-- The next byte, if any, without reading it. -/
def peek? : Parse (Option UInt8) := do
  return (← read)[← here]?

/-- Refuse, letting an enclosing choice try something else. -/
def refuse : Parse α := throw {}

/-- Refuse with a cause. -/
def refuseWith (c : Cause) : Parse α := throw { cause := some c }

/-- Make every refusal of `p` final. -/
def cut (p : Parse α) : Parse α :=
  tryCatch p fun e => throw { e with cut := true }

/-- Add a note to every refusal of `p`. -/
def noting (c : Context) (p : Parse α) : Parse α :=
  tryCatch p fun e => throw { e with contexts := e.contexts ++ [c] }

/-- Name what `p` reads, for its refusals. -/
def label (l : String) (p : Parse α) : Parse α := noting (.label l) p

/-- Say what `p` expects, for its refusals. -/
def expecting (e : Expected) (p : Parse α) : Parse α := noting (.expected e) p

/-- `p`, or nothing when it refuses without a cut; then the position is back
where `p` began. -/
def optional (p : Parse α) : Parse (Option α) := do
  let start ← here
  tryCatch (some <$> p) fun e => if e.cut then throw e else do seek start; pure none

/-- `p`, or else `q` from the same place; the refusal of `q` is the one given. -/
def orElse (p q : Parse α) : Parse α := do
  let start ← here
  tryCatch p fun e => if e.cut then throw e else do seek start; q

/-- `p` without moving on, whatever its outcome. -/
def lookahead (p : Parse α) : Parse α := do
  let start ← here
  tryCatch (do let a ← p; seek start; pure a) fun e => do seek start; throw e

/-- Read one byte. -/
def anyByte : Parse UInt8 := do
  match ← peek? with
  | some b => do seek ((← here) + 1); pure b
  | none => refuse

/-- Read one byte of a class; refuse without moving otherwise. -/
def byteIf (ok : UInt8 → Bool) : Parse UInt8 := do
  match ← peek? with
  | some b => if ok b then do seek ((← here) + 1); pure b else refuse
  | none => refuse

/-- Read one given ASCII character. -/
def char (c : Char) : Parse Unit := do
  let _ ← byteIf (· == c.toNat.toUInt8)

/-- Read a given ASCII text. -/
def literal (s : String) : Parse Unit := do
  let bs := s.toUTF8.toList
  let p ← here
  if ((← read).extract p (p + bs.length)).toList == bs then seek (p + bs.length) else refuse

/-- Whether the text has ended. -/
def atEnd : Parse Unit := do
  if (← peek?).isNone then pure () else refuse

/-- The end of the run of bytes of a class that starts at `i`. -/
def runEnd (text : ByteArray) (ok : UInt8 → Bool) (i : Nat) : Nat :=
  if h : i < text.size then
    if ok text[i] then runEnd text ok (i + 1) else i
  else i
termination_by text.size - i

/-- Read at least `least` and at most `most` bytes of a class, as many as
there are; refuse without moving when there are fewer than `least`. -/
def takeWhile (least : Nat) (most : Option Nat) (ok : UInt8 → Bool) : Parse Span := do
  let p ← here
  let e := runEnd (← read) ok p
  let e := match most with
    | some m => min e (p + m)
    | none => e
  if e - p < least then refuse else do seek e; pure ⟨p, e⟩

/-- The text of a span. -/
def textOf (sp : Span) : Parse String := do
  return Text.decodeLossy ((← read).extract sp.start sp.stop).toList

/-- Repeat `p` at most `fuel` times, until it refuses without a cut. -/
def manyUpTo (p : Parse α) : Nat → Parse (List α)
  | 0 => pure []
  | fuel + 1 => do
    let start ← here
    match ← optional p with
    | none => pure []
    | some a =>
      if (← here) == start then pure [a]
      else return a :: (← manyUpTo p fuel)

/-- Repeat `p` until it refuses without a cut. -/
def many (p : Parse α) : Parse (List α) := do
  manyUpTo p ((← read).size + 1)

/-- `p` once, then as often as it reads. -/
def many1 (p : Parse α) : Parse (List α) := do
  let a ← p
  return a :: (← many p)

/-- One `p` or more, separated by `sep`; a separator not followed by a `p` is
left unread. -/
def separated1 (p : Parse α) (sep : Parse Unit) : Parse (List α) := do
  let a ← p
  return a :: (← many (do sep; p))

/-- Like `separated1`, but nothing at all is allowed. -/
def separated0 (p : Parse α) (sep : Parse Unit) : Parse (List α) := do
  match ← optional p with
  | none => pure []
  | some a => return a :: (← many (do sep; p))

/-- Run a reader over a text from a position: the outcome and where it stopped. -/
def runFrom (p : Parse α) (text : ByteArray) (start : Nat) : Except Stop α × Nat :=
  ((p.run text).run).run start

end Parse

end OpenApiLint.Toml
