/-!
# UTF-8

Encoding characters to bytes and decoding bytes to text.  Decoding is
*lossy*: each maximal prefix of a well-formed sequence that cannot be
completed becomes one U+FFFD, and decoding goes on after it.  A text is valid
exactly when lossy decoding replaces nothing.

## Main definitions

* `Text.utf8Width`, `Text.encodeChar`, `Text.encodeUtf8`.
* `Text.decodeLossy`, `Text.decodeUtf8?`.
-/

namespace OpenApiLint.Text

/-- The number of bytes of a character in UTF-8. -/
def utf8Width (c : Char) : Nat :=
  let n := c.toNat
  if n < 0x80 then 1 else if n < 0x800 then 2 else if n < 0x10000 then 3 else 4

/-- The UTF-8 bytes of a code point. -/
def encodePoint (n : Nat) : List UInt8 :=
  if n < 0x80 then [n.toUInt8]
  else if n < 0x800 then [(0xC0 + n / 64).toUInt8, (0x80 + n % 64).toUInt8]
  else if n < 0x10000 then
    [(0xE0 + n / 4096).toUInt8, (0x80 + n / 64 % 64).toUInt8, (0x80 + n % 64).toUInt8]
  else
    [(0xF0 + n / 262144).toUInt8, (0x80 + n / 4096 % 64).toUInt8,
      (0x80 + n / 64 % 64).toUInt8, (0x80 + n % 64).toUInt8]

/-- The UTF-8 bytes of a character. -/
def encodeChar (c : Char) : List UInt8 := encodePoint c.toNat

/-- The UTF-8 bytes of a text. -/
def encodeUtf8 (s : String) : List UInt8 := s.toList.flatMap encodeChar

/-- A continuation byte in the given range. -/
def inRange (lo hi : Nat) (b : UInt8) : Bool := lo ≤ b.toNat && b.toNat ≤ hi

/-- The number of continuation bytes a leading byte announces, with the
allowed range of the first of them; `none` for a byte that cannot lead. -/
def leadShape (b : UInt8) : Option (Nat × Nat × Nat) :=
  let n := b.toNat
  if 0xC2 ≤ n && n ≤ 0xDF then some (1, 0x80, 0xBF)
  else if n = 0xE0 then some (2, 0xA0, 0xBF)
  else if n = 0xED then some (2, 0x80, 0x9F)
  else if 0xE1 ≤ n && n ≤ 0xEF then some (2, 0x80, 0xBF)
  else if n = 0xF0 then some (3, 0x90, 0xBF)
  else if n = 0xF4 then some (3, 0x80, 0x8F)
  else if 0xF1 ≤ n && n ≤ 0xF3 then some (3, 0x80, 0xBF)
  else none

/-- Read `count` continuation bytes into `acc`, the first within `lo .. hi`:
the code point, or `none` after a broken sequence, and the bytes left. -/
def continuation : Nat → Nat → Nat → Nat → List UInt8 → Option Nat × List UInt8
  | 0, acc, _, _, rest => (some acc, rest)
  | count + 1, acc, lo, hi, b :: rest =>
    if inRange lo hi b then continuation count (acc * 64 + (b.toNat - 0x80)) 0x80 0xBF rest
    else (none, b :: rest)
  | _ + 1, _, _, _, [] => (none, [])

theorem length_continuation (count acc lo hi : Nat) (rest : List UInt8) :
    (continuation count acc lo hi rest).2.length ≤ rest.length := by
  induction count generalizing acc lo hi rest with
  | zero => simp [continuation]
  | succ count ih =>
    cases rest with
    | nil => simp [continuation]
    | cons b rest =>
      simp only [continuation]
      split
      · have := ih (acc * 64 + (b.toNat - 0x80)) 0x80 0xBF rest
        simp only [List.length_cons]; omega
      · simp

/-- The lossy decoding of the bytes, as characters. -/
def decodeChars : List UInt8 → List Char
  | [] => []
  | b :: rest =>
    if b.toNat < 0x80 then Char.ofNat b.toNat :: decodeChars rest
    else
      match leadShape b with
      | none => '\uFFFD' :: decodeChars rest
      | some (count, lo, hi) =>
        let lead := b.toNat % (if count = 1 then 32 else if count = 2 then 16 else 8)
        match h : continuation count lead lo hi rest with
        | (r, after) =>
          have : after.length ≤ rest.length := by
            have := length_continuation count lead lo hi rest
            rw [h] at this; exact this
          match r with
          | some n => Char.ofNat n :: decodeChars after
          | none => '\uFFFD' :: decodeChars after
termination_by bs => bs.length
decreasing_by all_goals (rw [List.length_cons]; omega)

/-- The lossy decoding of bytes as text. -/
def decodeLossy (bytes : List UInt8) : String := String.ofList (decodeChars bytes)

/-- The text the bytes encode, when they are valid UTF-8. -/
def decodeUtf8? (bytes : List UInt8) : Option String :=
  let s := decodeLossy bytes
  if encodeUtf8 s = bytes then some s else none

end OpenApiLint.Text
