import OpenApiLint.Number.Binary64
/-!
# Shortest decimal digits

The decimal text of a double is the shortest digit string that reads back as
the same double, and of the shortest ones the nearest.  Reading back means
landing in the rounding interval: the reals that round to the double, halfway
points included when the mantissa is even.

The search is direct.  For `n = 1, 2, …, 17` digits it takes the two
neighbours of the value on the grid `10^k` that has `n` significant digits,
and keeps those inside the interval; the first grid with a hit wins, and of two
hits the nearer one; when both are as near, a `TieBreak` chooses.  All comparisons are
exact, on natural numbers.

## Main definitions

* `Decimal` — digits and a power of ten.
* `Binary64.shortest` — the shortest decimal of a finite, nonzero double.
-/

namespace OpenApiLint.Number

/-- A decimal `digits · 10^power`. -/
structure Decimal where
  digits : Nat
  power : Int
  deriving DecidableEq, Inhabited

/-- Which of two equally near shortest decimals is written. -/
inductive TieBreak where
  /-- The larger one. -/
  | up
  /-- The one whose last digit is even. -/
  | even
  deriving DecidableEq, Inhabited

/-- Compare `a · 2^p` with `b · 10^t` exactly. -/
def compareScaled (a : Nat) (p : Int) (b : Nat) (t : Int) : Ordering :=
  let lhs := a * (if 0 ≤ p then Nat.pow 2 p.toNat else 1) * (if t < 0 then Nat.pow 10 (-t).toNat else 1)
  let rhs := b * (if 0 ≤ t then Nat.pow 10 t.toNat else 1) * (if p < 0 then Nat.pow 2 (-p).toNat else 1)
  compare lhs rhs

/-- The exponent of the leading decimal digit of `m · 2^q` (`m > 0`):
`10^e ≤ m · 2^q < 10^(e+1)`. -/
def decimalExponent (m : Nat) (q : Int) : Int :=
  -- log10 2 is a little above 0.30103: the estimate is off by at most one
  let estimate : Int := (((m.log2 : Int) + q) * 30103) / 100000
  let below (e : Int) : Bool := compareScaled m q 1 e != .lt
  if !below estimate then estimate - 1
  else if below (estimate + 1) then estimate + 1
  else estimate

/-- `⌊m · 2^q / 10^t⌋`. -/
def floorScaled (m : Nat) (q t : Int) : Nat :=
  let num := m * (if 0 ≤ q then Nat.pow 2 q.toNat else 1) * (if t < 0 then Nat.pow 10 (-t).toNat else 1)
  let den := (if 0 ≤ t then Nat.pow 10 t.toNat else 1) * (if q < 0 then Nat.pow 2 (-q).toNat else 1)
  num / den

/-- The rounding interval of `m · 2^q`, in units of `2^(q-2)`: from `lo` to
`hi` around `4m`, ends included when `inclusive`.  The gap below is halved at
a power of two, where the next value down has a finer spacing. -/
structure Interval where
  lo : Nat
  hi : Nat
  inclusive : Bool

/-- The rounding interval of a finite double with mantissa `m` and exponent `q`. -/
def roundingInterval (m : Nat) (q : Int) : Interval :=
  let lower := if m = Binary64.hidden && q > -1074 then 1 else 2
  ⟨4 * m - lower, 4 * m + 2, m % 2 == 0⟩

/-- Whether `d · 10^t` lies in the rounding interval of `m · 2^q`. -/
def Interval.contains (iv : Interval) (q : Int) (d : Nat) (t : Int) : Bool :=
  let above := compareScaled iv.lo (q - 2) d t
  let below := compareScaled iv.hi (q - 2) d t
  let aboveOk := above == .lt || (iv.inclusive && above == .eq)
  let belowOk := below == .gt || (iv.inclusive && below == .eq)
  aboveOk && belowOk

/-- The nearer of two decimals `d` and `d + 1` on the grid `10^t` to
`m · 2^q`, the one that `tie` picks when both are as near. -/
def nearer (tie : TieBreak) (m : Nat) (q : Int) (d : Nat) (t : Int) : Nat :=
  -- distances in units of 2^(q) · 10^t are compared through 2·m·2^q against (2d+1)·10^t
  match compareScaled (2 * m) q (2 * d + 1) t with
  | .lt => d
  | .eq => if tie == .even && d % 2 == 0 then d else d + 1
  | .gt => d + 1

/-- Search the grids with `n`, `n+1`, … significant digits, at most `fuel` of them. -/
def searchDigits (tie : TieBreak) (m : Nat) (q e : Int) (iv : Interval) :
    Nat → Nat → Decimal
  | 0, _ => ⟨m, q⟩
  | fuel + 1, n =>
    let t := e - (n : Int) + 1
    let d := floorScaled m q t
    let lowIn := iv.contains q d t
    let highIn := iv.contains q (d + 1) t
    if lowIn && highIn then ⟨nearer tie m q d t, t⟩
    else if lowIn then ⟨d, t⟩
    else if highIn then ⟨d + 1, t⟩
    else searchDigits tie m q e iv fuel (n + 1)

/-- Remove trailing zero digits, raising the power of ten. -/
def Decimal.normalize : Nat → Decimal → Decimal
  | 0, x => x
  | fuel + 1, x =>
    if x.digits ≠ 0 && x.digits % 10 == 0 then
      Decimal.normalize fuel ⟨x.digits / 10, x.power + 1⟩
    else x

/-- The shortest decimal that reads back as `m · 2^q` (`m > 0`), and of those
the nearest, a tie broken by `tie`. -/
def shortestOf (tie : TieBreak) (m : Nat) (q : Int) : Decimal :=
  let e := decimalExponent m q
  Decimal.normalize 20 (searchDigits tie m q e (roundingInterval m q) 17 1)

/-- The shortest decimal of the magnitude of a finite nonzero double. -/
def Binary64.shortest (tie : TieBreak) (x : Binary64) : Decimal :=
  shortestOf tie x.mantissa x.exponent

/-- The number of decimal digits of a natural number (one for zero). -/
def digitCount (n : Nat) : Nat := (Nat.toDigits 10 n).length

end OpenApiLint.Number
