/-!
# Keyed lists

A map that remembers the order in which keys first arrived, as a list of
pairs.  Writing to a key that is already present keeps its place and replaces
its value, so a key written twice stands where it was first written and holds
what was written last.

## Main definitions

* `KeyedList.insert` — write one key.
* `KeyedList.ofList` — write a whole list of pairs, left to right.
* `KeyedList.lookup` — the value of a key.

The main statement, `keys_insert`, says what writing does to the key order.
-/

namespace OpenApiLint.KeyedList

variable {α : Type}

/-- Write `v` at key `k`: replace in place if `k` is present, else append. -/
def insert : List (String × α) → String → α → List (String × α)
  | [], k, v => [(k, v)]
  | (k', v') :: rest, k, v =>
    if k' = k then (k, v) :: rest else (k', v') :: insert rest k v

/-- Write the pairs of a list one after the other. -/
def ofList (kvs : List (String × α)) : List (String × α) :=
  kvs.foldl (fun acc kv => insert acc kv.1 kv.2) []

/-- The value stored at a key. -/
def lookup (kvs : List (String × α)) (k : String) : Option α :=
  (kvs.find? (fun kv => kv.1 == k)).map Prod.snd

/-- The keys in order. -/
def keys (kvs : List (String × α)) : List String := kvs.map Prod.fst

/-- **Writing keeps the key order, and a new key goes last.** -/
theorem keys_insert (kvs : List (String × α)) (k : String) (v : α) :
    keys (insert kvs k v) = if k ∈ keys kvs then keys kvs else keys kvs ++ [k] := by
  induction kvs with
  | nil => simp [insert, keys]
  | cons kv rest ih =>
    obtain ⟨k', v'⟩ := kv
    by_cases h : k' = k
    · subst h; simp [insert, keys]
    · simp only [insert, h, if_false, keys, List.map_cons, List.mem_cons] at ih ⊢
      rw [ih]
      by_cases hk : k ∈ List.map Prod.fst rest
      · simp [hk]
      · simp [hk, Ne.symm h]

end OpenApiLint.KeyedList
