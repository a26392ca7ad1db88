import OpenApiLint.Number.Binary64
import OpenApiLint.KeyedList
/-!
# Data values

The parts of a document that the linter keeps without interpreting them —
response objects, enum members, parameter schemas — are kept as data values:
null, booleans, integers, doubles, strings, arrays and objects whose keys keep
their first-arrival order.

## Main definitions

* `Value` — a data value.
* `Value.beq` — whether two values are the same, which decides their equality.
* `Value.ofDouble` — a double as a value; the non-finite ones have no data form and become null.
-/

namespace OpenApiLint

open Number

/-- A data value.  Integers are those of the 64-bit signed and unsigned ranges;
doubles are finite. -/
inductive Value where
  | null
  | bool (b : Bool)
  | int (n : Int)
  | float (x : Binary64)
  | str (s : String)
  | arr (items : List Value)
  | obj (entries : List (String × Value))
  deriving Inhabited

/-! The deriving handler does not reach through the nested lists of `Value`,
so its equality is decided by a test written out over the value, its items
and its entries, and shown to be equality. -/

mutual
/-- Whether two values are the same: the same kind and contents, items and
entries in the same order. -/
def Value.beq : Value → Value → Bool
  | .null, .null => true
  | .bool a, .bool b => a == b
  | .int a, .int b => a == b
  | .float a, .float b => a == b
  | .str a, .str b => a == b
  | .arr as, .arr bs => Value.beqItems as bs
  | .obj es, .obj fs => Value.beqEntries es fs
  | _, _ => false

/-- Whether two lists of items are the same. -/
def Value.beqItems : List Value → List Value → Bool
  | [], [] => true
  | a :: as, b :: bs => Value.beq a b && Value.beqItems as bs
  | _, _ => false

/-- Whether two lists of entries are the same. -/
def Value.beqEntries : List (String × Value) → List (String × Value) → Bool
  | [], [] => true
  | (k, a) :: es, (l, b) :: fs => k == l && Value.beq a b && Value.beqEntries es fs
  | _, _ => false
end

mutual
theorem Value.beq_iff_eq : ∀ a b : Value, Value.beq a b = true ↔ a = b
  | .null, b => by cases b <;> simp [Value.beq]
  | .bool x, b => by cases b <;> simp [Value.beq]
  | .int x, b => by cases b <;> simp [Value.beq]
  | .float x, b => by cases b <;> simp [Value.beq]
  | .str x, b => by cases b <;> simp [Value.beq]
  | .arr xs, b => by cases b <;> simp [Value.beq, Value.beqItems_iff_eq xs]
  | .obj es, b => by cases b <;> simp [Value.beq, Value.beqEntries_iff_eq es]

theorem Value.beqItems_iff_eq : ∀ xs ys : List Value, Value.beqItems xs ys = true ↔ xs = ys
  | [], ys => by cases ys <;> simp [Value.beqItems]
  | x :: xs, ys => by
    cases ys <;> simp [Value.beqItems, Value.beq_iff_eq x, Value.beqItems_iff_eq xs]

theorem Value.beqEntries_iff_eq :
    ∀ es fs : List (String × Value), Value.beqEntries es fs = true ↔ es = fs
  | [], fs => by cases fs <;> simp [Value.beqEntries]
  | (k, x) :: es, fs => by
    cases fs with
    | nil => simp [Value.beqEntries]
    | cons f fs =>
      obtain ⟨l, y⟩ := f
      simp [Value.beqEntries, Value.beq_iff_eq x, Value.beqEntries_iff_eq es, and_assoc]
end

instance : DecidableEq Value := fun a b => decidable_of_iff _ (Value.beq_iff_eq a b)

example : Value.arr [.str "a", .obj [("k", .int 1)]] ≠ .arr [.str "a", .obj [("k", .int 2)]] := by
  decide

namespace Value

/-- A double as a value: a finite one as itself, NaN and the infinities as null. -/
def ofDouble (x : Binary64) : Value := if x.isFinite then .float x else .null

/-- The text of a string value. -/
def asString? : Value → Option String
  | .str s => some s
  | _ => none

end Value

end OpenApiLint
