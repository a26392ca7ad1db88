import OpenApiLint.Number.Binary64
import OpenApiLint.Number.Shortest
/-!
# Reading decimal text as a double

A decimal literal is an optional sign, digits with an optional point (at
least one digit in all), and an optional exponent `e` or `E` with an optional
sign and at least one digit.  Its value is the double nearest to the exact
decimal, ties to even; magnitudes past the largest double are infinite.

## Main definitions

* `Number.Binary64.ofDecimal` — the double nearest to `m · 10^e`.
* `Number.readDecimal` — the double of a decimal literal, infinite results included.
-/

namespace OpenApiLint.Number

/-- Split off leading decimal digits. -/
def spanDigits (s : List Char) : List Char × List Char := (s.takeWhile Char.isDigit, s.dropWhile Char.isDigit)

/-- The natural number of a run of decimal digits (zero when empty). -/
def digitsValue (ds : List Char) : Nat := ds.foldl (fun acc c => acc * 10 + (c.toNat - 48)) 0

/-- The decimal exponent part after `e`: an optional sign and at least one digit. -/
def parseExponentPart (s : List Char) : Option Int :=
  let (neg, rest) := match s with
    | '+' :: r => (false, r)
    | '-' :: r => (true, r)
    | _ => (false, s)
  let (ds, tail) := spanDigits rest
  if ds.isEmpty || !tail.isEmpty then none
  else
    let v := digitsValue ds
    some (if neg then -(v : Int) else v)

/-- The double nearest to `m · 10^e`, with a sign.  Magnitudes far beyond the
range are infinity or zero without computing them. -/
def Binary64.ofDecimal (neg : Bool) (m : Nat) (e : Int) : Binary64 :=
  if m = 0 then Binary64.withSign neg Binary64.zero
  else
    let magnitude := e + digitCount m
    if magnitude > 310 then Binary64.withSign neg Binary64.infinity
    else if magnitude < -330 then Binary64.withSign neg Binary64.zero
    else if 0 ≤ e then Binary64.ofRatio neg (m * Nat.pow 10 e.toNat) 1 0
    else Binary64.ofRatio neg m (Nat.pow 10 (-e).toNat) 0

/-- The double of a decimal literal; none when the text is not one. -/
def readDecimal (s : List Char) : Option Binary64 :=
  let (neg, rest) := match s with
    | '+' :: r => (false, r)
    | '-' :: r => (true, r)
    | _ => (false, s)
  let (intDigits, afterInt) := spanDigits rest
  let (fracDigits, afterFrac) := match afterInt with
    | '.' :: r => spanDigits r
    | r => ([], r)
  if intDigits.isEmpty && fracDigits.isEmpty then none
  else
    let exp? : Option Int := match afterFrac with
      | [] => some 0
      | c :: r => if c == 'e' || c == 'E' then parseExponentPart r else none
    exp?.map fun e => Binary64.ofDecimal neg (digitsValue (intDigits ++ fracDigits)) (e - fracDigits.length)

end OpenApiLint.Number
