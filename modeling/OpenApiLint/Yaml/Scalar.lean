import OpenApiLint.Number.Binary64
import OpenApiLint.Number.Shortest
import OpenApiLint.Number.DecimalText
import OpenApiLint.Text.Printable
import OpenApiLint.Yaml.Token
/-!
# YAML scalars as values

A plain scalar without a tag is read by the core schema: empty, `~` and the
three spellings of `null` are null; `true`/`false` in three spellings are
booleans; integers may be decimal, or hexadecimal, octal and binary after
`0x`, `0o`, `0b` (with an optional `+`, or `-` before the prefix); floats are
decimal with an optional exponent, or `.inf`/`.nan` in three spellings.
Leading zeros before more digits make a string, so `0201` is text.  An
integer is tried as a 64-bit unsigned, then 64-bit signed, then 128-bit
unsigned and signed number.  Floats that overflow to infinity are text.

A tag from the core schema (`!!bool`, `!!int`, `!!float`, `!!null`) forces
its type, and a scalar that does not fit is an error; other tags, and quoted
styles, give text.

## Main definitions

* `Yaml.Scalar` — what a scalar is read as.
* `Yaml.resolveScalar`.
-/

namespace OpenApiLint.Yaml

open Number

/-- What a scalar is read as. `wide` integers lie outside the 64-bit ranges;
`unsigned` tells which 128-bit type holds them. -/
inductive Scalar where
  | null
  | bool (b : Bool)
  | unsigned (n : Nat)
  | signed (n : Int)
  | wide (n : Int) (unsigned : Bool)
  | float (x : Binary64)
  | text (s : String)
  deriving Inhabited

/-! ## Integers -/

/-- The value of a digit in any base up to 36. -/
def digitValue (c : Char) : Option Nat :=
  if c.isDigit then some (c.toNat - 48)
  else if 'a' ≤ c && c ≤ 'z' then some (c.toNat - 87)
  else if 'A' ≤ c && c ≤ 'Z' then some (c.toNat - 55)
  else none

/-- The natural number spelled by digits in a base; none when empty or when
a character is not a digit of the base. -/
def parseDigits (radix : Nat) : List Char → Option Nat
  | [] => none
  | cs => cs.foldlM (fun acc c => match digitValue c with
      | some d => if d < radix then some (acc * radix + d) else none
      | none => none) 0

/-- An integer of a fixed-width type, in a base: an optional `+` (or `-` for a
signed type) and digits, within `lo .. hi`. -/
def parseFixed (signed : Bool) (lo hi : Int) (radix : Nat) (s : List Char) : Option Int :=
  let (neg, digits) := match s with
    | '+' :: rest => (false, rest)
    | '-' :: rest => if signed then (true, rest) else (false, s)
    | _ => (false, s)
  match parseDigits radix digits with
  | some n =>
    let v : Int := if neg then -(n : Int) else n
    if lo ≤ v && v ≤ hi then some v else none
  | none => none

/-- Leading zeros followed only by digits: text by the YAML 1.2 rules. -/
def digitsButNotNumber (s : List Char) : Bool :=
  let s := match s with
    | '-' :: rest => rest
    | '+' :: rest => rest
    | _ => s
  s.length > 1 && s.head? == some '0' && s.tail.all Char.isDigit

/-- Whether text starts with a sign. -/
def startsWithSign (s : List Char) : Bool := s.head? == some '+' || s.head? == some '-'

/-- The based forms: a two-character prefix and its base. -/
def basePrefixes : List (Char × Nat) := [('x', 16), ('o', 8), ('b', 2)]

/-- A non-negative integer no greater than `hi`: decimal, or after a base
prefix; a `+` may come first. -/
def parseUnsigned (hi : Int) (s : List Char) : Option Int :=
  let unsigned := match s with
    | '+' :: rest => rest
    | _ => s
  let based := basePrefixes.findSome? fun (p, radix) =>
    match unsigned with
    | '0' :: q :: rest =>
      if q == p then
        if startsWithSign rest then some none
        else (parseFixed false 0 hi radix rest).map some
      else none
    | _ => none
  match based with
  | some r => r
  | none =>
    if startsWithSign unsigned || digitsButNotNumber s then none
    else parseFixed false 0 hi 10 unsigned

/-- A negative (or any signed) integer within `lo .. hi`: `-` before a base
prefix, or decimal. -/
def parseSigned (lo hi : Int) (s : List Char) : Option Int :=
  let based := basePrefixes.findSome? fun (p, radix) =>
    match s with
    | '-' :: '0' :: q :: rest => if q == p then parseFixed true lo hi radix ('-' :: rest) else none
    | _ => none
  match based with
  | some v => some v
  | none => if digitsButNotNumber s then none else parseFixed true lo hi 10 s

/-- An integer in the first type that holds it: 64-bit unsigned, 64-bit
signed, 128-bit unsigned, 128-bit signed. -/
def parseInteger (s : List Char) : Option Scalar :=
  match parseUnsigned 18446744073709551615 s with
  | some n => some (.unsigned n.toNat)
  | none =>
    match parseSigned (-9223372036854775808) 9223372036854775807 s with
    | some n => some (.signed n)
    | none =>
      match parseUnsigned (Int.ofNat (Nat.pow 2 128) - 1) s with
      | some n => some (.wide n true)
      | none => (parseSigned (-Int.ofNat (Nat.pow 2 127)) (Int.ofNat (Nat.pow 2 127) - 1) s).map (.wide · false)

/-! ## Floats -/

/-- A decimal number the standard way (see `readDecimal`); only finite
results are returned. -/
def parseDecimalFloat (s : List Char) : Option Binary64 :=
  (readDecimal s).filter (·.isFinite)

/-- A float of the core schema: `.inf`, `-.inf`, `.nan` in three spellings,
or a finite decimal; a `+` may come first, but not two signs. -/
def parseFloat (s : List Char) : Option Binary64 :=
  let unsigned? : Option (List Char) := match s with
    | '+' :: rest => if startsWithSign rest then none else some rest
    | _ => some s
  match unsigned? with
  | none => none
  | some unsigned =>
    let text := String.ofList unsigned
    let whole := String.ofList s
    if text == ".inf" || text == ".Inf" || text == ".INF" then some Binary64.infinity
    else if whole == "-.inf" || whole == "-.Inf" || whole == "-.INF" then some Binary64.infinity.neg
    else if whole == ".nan" || whole == ".NaN" || whole == ".NAN" then some Binary64.nan
    else parseDecimalFloat unsigned

/-! ## Null and booleans -/

/-- The spellings of null. -/
def isNullWord (s : String) : Bool := s == "null" || s == "Null" || s == "NULL" || s == "~"

/-- The spellings of the booleans. -/
def parseBool (s : String) : Option Bool :=
  if s == "true" || s == "True" || s == "TRUE" then some true
  else if s == "false" || s == "False" || s == "FALSE" then some false
  else none

/-! ## Resolution -/

/-- An untagged plain scalar by the core schema. -/
def resolvePlain (s : String) : Scalar :=
  if s.isEmpty || isNullWord s then .null
  else match parseBool s with
    | some b => .bool b
    | none =>
      let cs := s.toList
      match parseInteger cs with
      | some n => n
      | none =>
        if !digitsButNotNumber cs then
          match parseFloat cs with
          | some x => .float x
          | none => .text s
        else .text s

/-- The full form of a core-schema tag. -/
def coreTag (name : String) : List UInt8 := ("tag:yaml.org,2002:" ++ name).toUTF8.toList

/-- The message for a tagged scalar whose text does not fit its tag. -/
def invalidValue (s expected : String) : String :=
  "invalid value: string " ++ Text.debugQuote s ++ ", expected " ++ expected

/-- A scalar as read by its tag and style.  Core-schema tags force a type;
a local tag on a plain scalar, and no tag on a plain scalar, use the core
schema; everything else is text. -/
def resolveScalar (tag : Option (List UInt8)) (s : String) (style : ScalarStyle) : Except String Scalar :=
  match tag with
  | some t =>
    if t == coreTag "bool" then
      match parseBool s with
      | some b => .ok (.bool b)
      | none => .error (invalidValue s "a boolean")
    else if t == coreTag "int" then
      match parseInteger s.toList with
      | some n => .ok n
      | none => .error (invalidValue s "an integer")
    else if t == coreTag "float" then
      match parseFloat s.toList with
      | some x => .ok (.float x)
      | none => .error (invalidValue s "a float")
    else if t == coreTag "null" then
      if isNullWord s then .ok .null else .error (invalidValue s "null")
    else if t.head? == some 33 && style == .plain then .ok (resolvePlain s)
    else .ok (.text s)
  | none => if style == .plain then .ok (resolvePlain s) else .ok (.text s)

end OpenApiLint.Yaml
