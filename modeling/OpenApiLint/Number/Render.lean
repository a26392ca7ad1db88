import OpenApiLint.Number.Shortest
/-!
# Decimal text of a double

Two written forms of a double, both built on the shortest digits.

* The *plain* form never uses an exponent: `3.0` is `3`, `1e21` is
  `1000000000000000000000`, `1.5e-7` is `0.00000015`, negative zero is `-0`,
  and the non-finite values are `NaN`, `inf` and `-inf`.  Scalars converted to
  text and numbers quoted in messages use it; of two equally near shortest
  decimals it writes the larger.
* The *data* form always shows that the number is not an integer: `1.0`,
  `-0.0`, `0.1`; below `1e-5` and from `1e16` on it switches to an exponent
  with an explicit sign, `1e+300`, `1.5e-7`, `1.2345678901234567e+20`.  Of
  two equally near shortest decimals it writes the one with the even last
  digit.

## Main definitions

* `Binary64.plainText`, `Binary64.dataText`.
-/

namespace OpenApiLint.Number

/-- `n` zero characters. -/
def zeros (n : Nat) : String := String.ofList (List.replicate n '0')

/-- The digits of a natural number in base ten. -/
def decimalDigits (n : Nat) : String := String.ofList (Nat.toDigits 10 n)

/-- The plain text of a decimal `d · 10^t`, without exponent or sign. -/
def Decimal.plainText (x : Decimal) : String :=
  let ds := decimalDigits x.digits
  if 0 ≤ x.power then ds ++ zeros x.power.toNat
  else
    let frac := (-x.power).toNat
    let len := ds.length
    if len > frac then
      String.ofList (ds.toList.take (len - frac)) ++ "." ++ String.ofList (ds.toList.drop (len - frac))
    else "0." ++ zeros (frac - len) ++ ds

/-- The plain form: shortest digits, never an exponent, `-0` for negative zero. -/
def Binary64.plainText (x : Binary64) : String :=
  if x.isNaN then "NaN"
  else
    let sign := if x.negative then "-" else ""
    if x.isInfinite then sign ++ "inf"
    else if x.mantissa = 0 then sign ++ "0"
    else sign ++ (x.shortest .up).plainText

/-- The written exponent of the data form: a sign, then the decimal digits. -/
def exponentText (e : Int) : String :=
  if e < 0 then "-" ++ decimalDigits (-e).toNat else "+" ++ decimalDigits e.toNat

/-- The data form of a finite double: positional with a fractional part when
the leading digit's exponent lies in `-5 .. 15`, else one digit, a point when
more digits follow, and a signed exponent. -/
def Binary64.dataText (x : Binary64) : String :=
  let sign := if x.negative then "-" else ""
  if x.mantissa = 0 then sign ++ "0.0"
  else
    let d := x.shortest .even
    let ds := decimalDigits d.digits
    let len : Int := ds.length
    -- 10^(kk-1) ≤ value < 10^kk
    let kk := len + d.power
    if 0 ≤ d.power && kk ≤ 16 then sign ++ ds ++ zeros d.power.toNat ++ ".0"
    else if 0 < kk && kk ≤ 16 then
      sign ++ String.ofList (ds.toList.take kk.toNat) ++ "." ++
        String.ofList (ds.toList.drop kk.toNat)
    else if -5 < kk && kk ≤ 0 then sign ++ "0." ++ zeros (-kk).toNat ++ ds
    else if len = 1 then sign ++ ds ++ "e" ++ exponentText (kk - 1)
    else
      sign ++ String.ofList (ds.toList.take 1) ++ "." ++ String.ofList (ds.toList.drop 1) ++
        "e" ++ exponentText (kk - 1)

end OpenApiLint.Number
