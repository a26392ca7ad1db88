import Mathlib
import OpenApiLint.KeyedList
/-!
# Keyed lists: what writing keeps

Writing a list of pairs into a keyed list keeps every key once, and holds
only pairs that were written.  When the keys written are already distinct,
writing them changes nothing: the keyed list is the list itself.  In general
the keys stand in the order they first arrived, and each holds the last
value written to it; dropping the keys whose last value is missing keeps the
others in that order.

## Main definitions

* `KeyedList.FirstKeysLastValues` — first-arrival key order, last value per key.
* `KeyedList.LastValuesPresent` — the same, less the keys whose last value is missing.

## Main statements

* `KeyedList.ofList_of_nodup` — distinct keys are kept as written.
* `KeyedList.nodup_keys_ofList` — the keys of a keyed list are distinct.
* `KeyedList.mem_ofList` — every pair of a keyed list was written.
* `KeyedList.firstKeysLastValues_ofList`, `KeyedList.lastValuesPresent_ofList`.
-/

namespace OpenApiLint.KeyedList

variable {α : Type}

theorem insert_of_not_mem {kvs : List (String × α)} {k : String} (h : k ∉ keys kvs) (v : α) :
    insert kvs k v = kvs ++ [(k, v)] := by
  induction kvs with
  | nil => rfl
  | cons kv rest ih =>
    obtain ⟨k', v'⟩ := kv
    have hk : k' ≠ k := fun he => h (by simp [keys, he])
    have hr : k ∉ keys rest := fun hm => h (by simp only [keys, List.map_cons] at hm ⊢; simp [hm])
    simp [insert, hk, ih hr]

theorem foldl_insert_of_nodup (acc kvs : List (String × α)) (h : (keys (acc ++ kvs)).Nodup) :
    kvs.foldl (fun acc kv => insert acc kv.1 kv.2) acc = acc ++ kvs := by
  induction kvs generalizing acc with
  | nil => simp
  | cons kv rest ih =>
    -- the key written next is not among those written before it
    have hnew : kv.1 ∉ keys acc := by
      intro hm
      simp only [keys, List.map_append, List.map_cons] at h hm
      exact (List.nodup_append.mp h).2.2 _ hm _ (List.mem_cons_self) rfl
    rw [List.foldl_cons, insert_of_not_mem hnew, ih]
    · simp
    · simpa using h

/-- **Distinct keys are kept as written.** -/
theorem ofList_of_nodup {kvs : List (String × α)} (h : (keys kvs).Nodup) : ofList kvs = kvs := by
  rw [ofList, foldl_insert_of_nodup [] kvs (by simpa using h), List.nil_append]

theorem nodup_keys_insert {kvs : List (String × α)} (h : (keys kvs).Nodup) (k : String) (v : α) :
    (keys (insert kvs k v)).Nodup := by
  rw [keys_insert]
  split_ifs with hk
  · exact h
  · exact h.append (List.nodup_singleton k) (by simpa using hk)

theorem nodup_keys_foldl_insert (acc kvs : List (String × α)) (h : (keys acc).Nodup) :
    (keys (kvs.foldl (fun acc kv => insert acc kv.1 kv.2) acc)).Nodup := by
  induction kvs generalizing acc with
  | nil => exact h
  | cons kv rest ih => exact ih _ (nodup_keys_insert h kv.1 kv.2)

/-- **The keys of a keyed list are distinct.** -/
theorem nodup_keys_ofList (kvs : List (String × α)) : (keys (ofList kvs)).Nodup :=
  nodup_keys_foldl_insert [] kvs List.nodup_nil

theorem mem_insert {kvs : List (String × α)} {k : String} {v : α} {kv : String × α}
    (h : kv ∈ insert kvs k v) : kv ∈ kvs ∨ kv = (k, v) := by
  induction kvs with
  | nil => simpa [insert] using h
  | cons kv' rest ih =>
    obtain ⟨k', v'⟩ := kv'
    by_cases hk : k' = k
    · simp only [insert, hk, if_true, List.mem_cons] at h
      rcases h with h | h
      · exact Or.inr h
      · exact Or.inl (List.mem_cons_of_mem _ h)
    · simp only [insert, hk, if_false, List.mem_cons] at h
      rcases h with h | h
      · exact Or.inl (h ▸ List.mem_cons_self)
      · rcases ih h with h' | h'
        · exact Or.inl (List.mem_cons_of_mem _ h')
        · exact Or.inr h'

theorem mem_foldl_insert (acc kvs : List (String × α)) {kv : String × α}
    (h : kv ∈ kvs.foldl (fun acc kv => insert acc kv.1 kv.2) acc) : kv ∈ acc ∨ kv ∈ kvs := by
  induction kvs generalizing acc with
  | nil => exact Or.inl h
  | cons kv' rest ih =>
    rcases ih _ h with h' | h'
    · rcases mem_insert h' with h'' | h''
      · exact Or.inl h''
      · exact Or.inr (h'' ▸ List.mem_cons_self)
    · exact Or.inr (List.mem_cons_of_mem _ h')

/-- **Every pair of a keyed list was written.** -/
theorem mem_ofList {kvs : List (String × α)} {kv : String × α} (h : kv ∈ ofList kvs) : kv ∈ kvs := by
  rcases mem_foldl_insert [] kvs h with h' | h'
  · simp at h'
  · exact h'

/-! ## First keys, last values -/

theorem lookup_cons (k : String) (v : α) (rest : List (String × α)) (n : String) :
    lookup ((k, v) :: rest) n = if k = n then some v else lookup rest n := by
  by_cases h : k = n <;> simp [lookup, h]

theorem keys_cons (kv : String × α) (rest : List (String × α)) :
    keys (kv :: rest) = kv.1 :: keys rest := rfl

theorem ofList_append_singleton (kvs : List (String × α)) (k : String) (v : α) :
    ofList (kvs ++ [(k, v)]) = insert (ofList kvs) k v := by
  simp [ofList, List.foldl_append]

/-- Writing a key changes the lookup of that key only. -/
theorem lookup_insert (kvs : List (String × α)) (k : String) (v : α) (n : String) :
    lookup (insert kvs k v) n = if k = n then some v else lookup kvs n := by
  induction kvs with
  | nil => simp [insert, lookup_cons]
  | cons kv rest ih =>
    obtain ⟨k', v'⟩ := kv
    by_cases hk : k' = k
    · subst hk
      by_cases hn : k' = n <;> simp [insert, lookup_cons, hn]
    · simp only [insert, hk, if_false, lookup_cons, ih]
      by_cases hn : k' = n
      · subst hn
        simp [Ne.symm hk]
      · simp [hn]

theorem eraseDups_append_singleton (ks : List String) (k : String) :
    (ks ++ [k]).eraseDups = if k ∈ ks then ks.eraseDups else ks.eraseDups ++ [k] := by
  rw [List.eraseDups_append]
  by_cases hk : k ∈ ks <;> simp [List.removeAll, List.eraseDups_cons, hk]

/-- **Keys stand in the order they first arrived.** -/
theorem keys_ofList (kvs : List (String × α)) : keys (ofList kvs) = (keys kvs).eraseDups := by
  induction kvs using List.reverseRecOn with
  | nil => rfl
  | append_singleton kvs kv ih =>
    obtain ⟨k, v⟩ := kv
    have happend : keys (kvs ++ [(k, v)]) = keys kvs ++ [k] := by simp [keys]
    rw [ofList_append_singleton, keys_insert, ih, happend, eraseDups_append_singleton]
    simp only [List.mem_eraseDups]

/-- **Each key holds the last value written to it.** -/
theorem lookup_ofList (kvs : List (String × α)) (n : String) :
    lookup (ofList kvs) n = lookup kvs.reverse n := by
  induction kvs using List.reverseRecOn with
  | nil => rfl
  | append_singleton kvs kv ih =>
    obtain ⟨k, v⟩ := kv
    rw [ofList_append_singleton, lookup_insert, ih, List.reverse_append, List.reverse_singleton,
      List.singleton_append, lookup_cons]

/-- `r` holds the keys of `kvs` once each, in the order they first arrive,
each with the last value written to it. -/
structure FirstKeysLastValues (kvs r : List (String × α)) : Prop where
  keys_eq : keys r = (keys kvs).eraseDups
  lookup_eq : ∀ k, lookup r k = lookup kvs.reverse k

theorem firstKeysLastValues_ofList (kvs : List (String × α)) :
    FirstKeysLastValues kvs (ofList kvs) :=
  ⟨keys_ofList kvs, lookup_ofList kvs⟩

/-- `r` holds, in the order they first arrive, the keys of `kvs` whose last
value is present, each with that value. -/
structure LastValuesPresent (kvs : List (String × Option α)) (r : List (String × α)) : Prop where
  keys_eq : keys r = (keys kvs).eraseDups.filter fun k => ((lookup kvs.reverse k).bind id).isSome
  lookup_eq : ∀ k, lookup r k = (lookup kvs.reverse k).bind id

/-- Dropping the missing values of a list with distinct keys: what is left
of each key is its value, if present. -/
theorem lookup_filterMap_of_nodup {kvs : List (String × Option α)} (h : (keys kvs).Nodup) (n : String) :
    lookup (kvs.filterMap fun kv => kv.2.map (kv.1, ·)) n = (lookup kvs n).bind id := by
  induction kvs with
  | nil => rfl
  | cons kv rest ih =>
    obtain ⟨k, _ | a⟩ := kv
    · simp only [keys, List.map_cons, List.nodup_cons] at h
      -- a missing value hides nothing: its key does not come back later
      by_cases hn : k = n
      · subst hn
        have hrest : lookup rest k = none := by
          simp only [lookup, Option.map_eq_none_iff, List.find?_eq_none, beq_iff_eq]
          intro kv hkv hk
          exact h.1 (by rw [← hk]; exact List.mem_map_of_mem hkv)
        simp [lookup_cons, ih h.2, hrest]
      · simp [lookup_cons, hn, ih h.2]
    · simp only [keys, List.map_cons, List.nodup_cons] at h
      by_cases hn : k = n <;> simp [lookup_cons, hn, ih h.2]

theorem keys_filterMap_of_nodup {kvs : List (String × Option α)} (h : (keys kvs).Nodup) :
    keys (kvs.filterMap fun kv => kv.2.map (kv.1, ·)) =
      (keys kvs).filter fun k => ((lookup kvs k).bind id).isSome := by
  induction kvs with
  | nil => rfl
  | cons kv rest ih =>
    obtain ⟨k, o⟩ := kv
    simp only [keys, List.map_cons, List.nodup_cons] at h
    -- the later keys differ from `k`, so their lookups skip the first entry
    have hskip : ((keys rest).filter fun k' => ((lookup ((k, o) :: rest) k').bind id).isSome) =
        (keys rest).filter fun k' => ((lookup rest k').bind id).isSome := by
      refine List.filter_congr fun k' hk' => ?_
      have hne : k ≠ k' := fun he => h.1 (he ▸ hk')
      simp [lookup_cons, hne]
    have hfirst : ((lookup ((k, o) :: rest) k).bind id).isSome = o.isSome := by
      simp [lookup_cons]
    cases o with
    | none =>
      calc keys (((k, none) :: rest).filterMap fun kv => kv.2.map (kv.1, ·))
          = keys (rest.filterMap fun kv => kv.2.map (kv.1, ·)) := rfl
        _ = (keys rest).filter fun k' => ((lookup rest k').bind id).isSome := ih h.2
        _ = (keys ((k, none) :: rest)).filter
              fun k' => ((lookup ((k, none) :: rest) k').bind id).isSome := by
          rw [← hskip, keys_cons, List.filter_cons, hfirst]
          rfl
    | some a =>
      calc keys (((k, some a) :: rest).filterMap fun kv => kv.2.map (kv.1, ·))
          = k :: keys (rest.filterMap fun kv => kv.2.map (kv.1, ·)) := rfl
        _ = k :: (keys rest).filter fun k' => ((lookup rest k').bind id).isSome := by rw [ih h.2]
        _ = (keys ((k, some a) :: rest)).filter
              fun k' => ((lookup ((k, some a) :: rest) k').bind id).isSome := by
          rw [← hskip, keys_cons, List.filter_cons, hfirst]
          rfl

/-- **Dropping missing values after writing keeps the keys whose last value is present.** -/
theorem lastValuesPresent_ofList (kvs : List (String × Option α)) :
    LastValuesPresent kvs ((ofList kvs).filterMap fun kv => kv.2.map (kv.1, ·)) where
  keys_eq := by
    rw [keys_filterMap_of_nodup (nodup_keys_ofList kvs), keys_ofList]
    exact List.filter_congr fun k _ => by rw [lookup_ofList]
  lookup_eq k := by rw [lookup_filterMap_of_nodup (nodup_keys_ofList kvs), lookup_ofList]

end OpenApiLint.KeyedList
