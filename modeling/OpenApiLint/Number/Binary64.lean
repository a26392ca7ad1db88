/-!
# Binary64 values

A double-precision value is kept as its 64-bit pattern.  Its fields are read
with natural-number arithmetic, and the one operation everything else needs,
rounding an exact ratio to the nearest double, is done exactly on `Nat`: no
hardware float is consulted, so every result below is a computation that a
proof can follow.

## Main definitions

* `Binary64` — a bit pattern, with `negative`, `mantissa` and `exponent` for finite values.
* `Binary64.ofRatio neg num den e` — the double nearest to `±num / den · 2^e`,
  halfway cases to the even mantissa, overflow to infinity.
* `Binary64.mul`, `Binary64.div` — correctly rounded products and quotients.
-/

namespace OpenApiLint.Number

/-- A double-precision floating-point value, as its IEEE 754 bit pattern. -/
structure Binary64 where
  bits : UInt64
  deriving DecidableEq, Inhabited

namespace Binary64

/-- Two to the fifty-second: the weight of the hidden bit. -/
def hidden : Nat := Nat.pow 2 52

/-- The sign bit. -/
def negative (x : Binary64) : Bool := x.bits.toNat ≥ Nat.pow 2 63

/-- The eleven exponent bits, as stored. -/
def biasedExponent (x : Binary64) : Nat := (x.bits.toNat / hidden) % 2048

/-- The fifty-two stored fraction bits. -/
def fraction (x : Binary64) : Nat := x.bits.toNat % hidden

/-- A value whose exponent bits are all ones and whose fraction is not zero. -/
def isNaN (x : Binary64) : Bool := x.biasedExponent == 2047 && x.fraction != 0

/-- Positive or negative infinity. -/
def isInfinite (x : Binary64) : Bool := x.biasedExponent == 2047 && x.fraction == 0

/-- Neither a NaN nor an infinity. -/
def isFinite (x : Binary64) : Bool := x.biasedExponent != 2047

/-- The integer significand of a finite value, hidden bit included. -/
def mantissa (x : Binary64) : Nat :=
  if x.biasedExponent = 0 then x.fraction else x.fraction + hidden

/-- The power of two that scales `mantissa`: a finite value is `± mantissa · 2^exponent`. -/
def exponent (x : Binary64) : Int :=
  if x.biasedExponent = 0 then -1074 else (x.biasedExponent : Int) - 1075

/-- The value with the given sign, exponent bits and fraction bits. -/
def ofFields (neg : Bool) (biased fraction : Nat) : Binary64 :=
  ⟨UInt64.ofNat ((if neg then Nat.pow 2 63 else 0) + biased % 2048 * hidden + fraction % hidden)⟩

/-- Positive infinity. -/
def infinity : Binary64 := ofFields false 2047 0

/-- The quiet NaN with a clear sign bit. -/
def nan : Binary64 := ofFields false 2047 (Nat.pow 2 51)

/-- Positive zero. -/
def zero : Binary64 := ofFields false 0 0

/-- The value with its sign bit flipped. -/
def neg (x : Binary64) : Binary64 :=
  ⟨UInt64.ofNat ((x.bits.toNat + Nat.pow 2 63) % Nat.pow 2 64)⟩

/-- The value with the given sign. -/
def withSign (neg : Bool) (x : Binary64) : Binary64 :=
  if x.negative = neg then x else x.neg

/-- The position of the leading bit of the positive ratio `num / den`:
`2^k ≤ num / den < 2^(k+1)`. -/
def ratioLog2 (num den : Nat) : Int :=
  let a := num.log2
  let b := den.log2
  let k : Int := (a : Int) - b
  if num * Nat.pow 2 (b - a) ≥ den * Nat.pow 2 (a - b) then k else k - 1

/-- Division rounded to nearest, a halfway case to the even quotient. -/
def divRoundEven (num den : Nat) : Nat :=
  let q := num / den
  let r := num % den
  if 2 * r > den || (2 * r == den && q % 2 == 1) then q + 1 else q

/-- The double nearest to `num / den · 2^e` with the given sign.  Halfway cases
go to the even mantissa; a magnitude that rounds to `2^1024` or beyond is
infinity, and one below half the least subnormal is zero. -/
def ofRatio (neg : Bool) (num den : Nat) (e : Int) : Binary64 :=
  if num = 0 || den = 0 then withSign neg zero
  else
    let k := ratioLog2 num den + e
    -- the scale of the last mantissa bit: 52 places below the leading bit,
    -- but never below the subnormal scale
    let q : Int := max (k - 52) (-1074)
    let s := e - q
    let n := if 0 ≤ s then num * Nat.pow 2 s.toNat else num
    let d := if 0 ≤ s then den else den * Nat.pow 2 (-s).toNat
    let m := divRoundEven n d
    -- rounding may carry into a fifty-fourth bit
    let (m, q) := if m = 2 * hidden then (hidden, q + 1) else (m, q)
    if m < hidden then withSign neg (ofFields false 0 m)
    else
      let biased := q + 1075
      if biased ≥ 2047 then withSign neg infinity
      else withSign neg (ofFields false biased.toNat (m - hidden))

/-- The double nearest to a natural number. -/
def ofNat (n : Nat) : Binary64 := ofRatio false n 1 0

/-- The correctly rounded product of two finite values. -/
def mul (x y : Binary64) : Binary64 :=
  ofRatio (x.negative != y.negative) (x.mantissa * y.mantissa) 1 (x.exponent + y.exponent)

/-- The correctly rounded quotient of two finite values, the divisor not zero. -/
def div (x y : Binary64) : Binary64 :=
  ofRatio (x.negative != y.negative) x.mantissa y.mantissa (x.exponent - y.exponent)

end Binary64

end OpenApiLint.Number
