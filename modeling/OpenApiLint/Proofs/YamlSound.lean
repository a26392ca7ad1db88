import Mathlib
import OpenApiLint.Proofs.JsonSound
import OpenApiLint.Yaml.Decoder
/-!
# What the YAML primitives return

The YAML primitives keep the promises of `Decoder.Sound`, as the JSON ones
do.  Two facts of the YAML reader carry the data values: an integer scalar is
held as a data value only when it lies in a 64-bit range (the core schema
reads wider integers, which a data value refuses), and a mapping merges a
repeated key into its first place, so its keys are distinct.

A promise about a walk over the events is a `SatisfiesM` statement: every
successful walk from every place returns a value with the property
(`Yaml.satisfiesM_iff`).  Following an alias, giving an error its place and
entering a nested node change where and how reading happens, never what it
returns.

## Main statements

* `Yaml.resolveScalar_bounded` — integer scalars lie in the 64-bit ranges.
* `Yaml.satisfiesM_value` — a data value read at any depth is storable.
* `Yaml.decoder_sound` — the YAML primitives are sound.
-/

namespace OpenApiLint.Yaml

open Number

/-! ## Integers within the 64-bit ranges -/

/-- The integer scalars a data value can hold: unsigned ones up to the
unsigned 64-bit maximum, signed ones from the signed 64-bit minimum. -/
def Scalar.Bounded : Scalar → Prop
  | .unsigned n => n ≤ Json.u64Max
  | .signed n => -(2 ^ 63 : Int) ≤ n ∧ n ≤ Json.u64Max
  | _ => True


/-- A fixed-width integer lies within the bounds it was read with. -/
theorem parseFixed_bounds {signed : Bool} {lo hi : Int} {radix : Nat} {s : List Char} {v : Int}
    (h : parseFixed signed lo hi radix s = some v) : lo ≤ v ∧ v ≤ hi := by
  unfold parseFixed at h
  split at h
  rename_i neg digits _
  split at h
  · dsimp only at h
    rw [Option.ite_none_right_eq_some] at h
    obtain ⟨hb, he⟩ := h
    rw [← Option.some.inj he]
    simpa using hb
  · cases h

theorem parseUnsigned_bounds {hi : Int} {s : List Char} {v : Int}
    (h : parseUnsigned hi s = some v) : 0 ≤ v ∧ v ≤ hi := by
  unfold parseUnsigned at h
  dsimp only at h
  split at h
  · rename_i r hr
    subst h
    obtain ⟨⟨q, radix⟩, -, hq⟩ := List.exists_of_findSome?_eq_some hr
    dsimp only at hq
    split at hq
    · split_ifs at hq
      · cases hq
      · obtain ⟨v', hv', he⟩ := Option.map_eq_some_iff.mp hq
        cases he
        exact parseFixed_bounds hv'
    · cases hq
  · split_ifs at h
    exact parseFixed_bounds h

theorem parseSigned_bounds {lo hi : Int} {s : List Char} {v : Int}
    (h : parseSigned lo hi s = some v) : lo ≤ v ∧ v ≤ hi := by
  unfold parseSigned at h
  dsimp only at h
  split at h
  · rename_i v' hv'
    cases h
    obtain ⟨⟨q, radix⟩, -, hq⟩ := List.exists_of_findSome?_eq_some hv'
    dsimp only at hq
    split at hq
    · split_ifs at hq
      exact parseFixed_bounds hq
    · cases hq
  · split_ifs at h
    exact parseFixed_bounds h

theorem parseInteger_bounded {s : List Char} {r : Scalar} (h : parseInteger s = some r) :
    r.Bounded := by
  unfold parseInteger at h
  split at h
  · rename_i n hn
    cases h
    have := parseUnsigned_bounds hn
    show n.toNat ≤ Json.u64Max
    simp only [Json.u64Max, Nat.pow_eq]
    omega
  · split at h
    · rename_i n hn
      cases h
      have := parseSigned_bounds hn
      refine ⟨by omega, ?_⟩
      simp only [Json.u64Max, Nat.pow_eq]
      omega
    · split at h
      · cases h
        trivial
      · obtain ⟨n, -, rfl⟩ := Option.map_eq_some_iff.mp h
        trivial

theorem resolvePlain_bounded (s : String) : (resolvePlain s).Bounded := by
  unfold resolvePlain
  split_ifs
  · trivial
  · split
    · trivial
    · dsimp only
      split
      · exact parseInteger_bounded (by assumption)
      · split_ifs
        · split <;> trivial
        · trivial

/-- **Integer scalars lie in the 64-bit ranges**, whatever their tag. -/
theorem resolveScalar_bounded {tag : Option (List UInt8)} {s : String} {style : ScalarStyle}
    {r : Scalar} (h : resolveScalar tag s style = .ok r) : r.Bounded := by
  unfold resolveScalar at h
  split at h
  · split_ifs at h
    · split at h <;> cases h
      trivial
    · split at h
      · cases h
        exact parseInteger_bounded (by assumption)
      · cases h
    · split at h <;> cases h
      trivial
    · cases h
      trivial
    · cases h
      exact resolvePlain_bounded s
    · cases h
      trivial
  · split_ifs at h
    · cases h
      exact resolvePlain_bounded s
    · cases h
      trivial

variable {α β : Type} {p : α → Prop}

/-! ## Promises about walks -/

theorem satisfiesM_iff {x : Walk α} :
    SatisfiesM p x ↔ ∀ s c r, (x.run s).run c = .ok r → p r.1 := by
  rw [SatisfiesM_ReaderT_eq]
  simp only [SatisfiesM_StateT_eq, SatisfiesM_Except_eq]

theorem satisfiesM_throw (p : α → Prop) (e : Error) : SatisfiesM p (throw e : Walk α) :=
  satisfiesM_iff.mpr fun _ _ _ h => by cases h

/-- A handler that returns only what keeps a promise keeps it for the
step it guards. -/
theorem satisfiesM_tryCatch {x : Walk α} {h : Error → Walk α} (hx : SatisfiesM p x)
    (hh : ∀ e, SatisfiesM p (h e)) : SatisfiesM p (tryCatch x h) := by
  rw [satisfiesM_iff] at hx ⊢
  intro s c r hr
  have hrun : ((tryCatch x h).run s).run c = match (x.run s).run c with
      | .ok r => .ok r
      | .error e => ((h e).run s).run c := by
    show Except.tryCatch ((x.run s).run c) (fun e => ((h e).run s).run c) = _
    cases (x.run s).run c <;> rfl
  rw [hrun] at hr
  split at hr
  · cases hr
    exact hx s c _ (by assumption)
  · exact satisfiesM_iff.mp (hh _) s c r hr

theorem satisfiesM_withReader {x : Walk α} (hx : SatisfiesM p x) (f : Scope → Scope) :
    SatisfiesM p (withReader f x) := by
  rw [satisfiesM_iff] at hx ⊢
  exact fun s c r hr => hx (f s) c r hr

theorem satisfiesM_placed {x : Walk α} (hx : SatisfiesM p x) (m : Mark) : SatisfiesM p (placed m x) :=
  satisfiesM_bind_of_right fun _ => satisfiesM_tryCatch hx fun e => by
    split <;> exact satisfiesM_throw p _

theorem satisfiesM_nested {x : Walk α} (hx : SatisfiesM p x) (m : Mark) : SatisfiesM p (nested m x) := by
  refine satisfiesM_bind_of_right fun _ => ?_
  dsimp only
  split
  · exact satisfiesM_bind_of_right fun _ => satisfiesM_withReader hx _
  · exact satisfiesM_withReader hx _

/-- Following an alias returns what reading its target returns. -/
theorem satisfiesM_jump {x : Walk α} (hx : SatisfiesM p x) (target : Nat) :
    SatisfiesM p (jump target x) := by
  refine satisfiesM_bind_of_right fun c => satisfiesM_bind_of_right fun _ => ?_
  dsimp only
  split
  · exact satisfiesM_bind_of_right fun _ => satisfiesM_bind_of_right fun _ =>
      (satisfiesM_withReader hx _).bind fun _ hr => satisfiesM_bind_of_right fun _ => SatisfiesM.pure hr
  · exact satisfiesM_bind_of_right fun _ =>
      (satisfiesM_withReader hx _).bind fun _ hr => satisfiesM_bind_of_right fun _ => SatisfiesM.pure hr

theorem satisfiesM_withNode {k : Node → Mark → Walk α} (hk : ∀ ev m, SatisfiesM p (k ev m)) :
    SatisfiesM p (withNode k) := by
  refine satisfiesM_bind_of_right fun ⟨ev, m⟩ => ?_
  dsimp only
  split
  · exact satisfiesM_jump (satisfiesM_bind_of_right fun ⟨ev', m'⟩ => hk ev' m') _
  · exact hk _ _

/-! ## Loops

As for JSON, each loop keeps an invariant of its accumulator; a data
object's loop also keeps its keys distinct. -/

theorem satisfiesM_itemsLoop {item : Walk α} (hi : SatisfiesM p item) (n i : Nat) {acc : Array α}
    (hacc : ∀ a ∈ acc, p a) :
    SatisfiesM (fun r : Array α => ∀ a ∈ r, p a) (itemsLoop item n i acc) := by
  induction n generalizing i acc with
  | zero => exact SatisfiesM.pure hacc
  | succ n ih =>
    refine satisfiesM_bind_of_right fun b => ?_
    split
    · exact SatisfiesM.pure hacc
    · refine (satisfiesM_withReader hi _).bind fun v hv => ih _ ?_
      intro a ha
      rcases Array.mem_push.mp ha with ha | rfl
      · exact hacc a ha
      · exact hv

theorem satisfiesM_entriesLoop {item : Walk α} (hi : SatisfiesM p item) (n : Nat)
    {acc : Array (String × α)} (hacc : ∀ kv ∈ acc, p kv.2) :
    SatisfiesM (fun r : Array (String × α) => ∀ kv ∈ r, p kv.2) (entriesLoop item n acc) := by
  induction n generalizing acc with
  | zero => exact SatisfiesM.pure hacc
  | succ n ih =>
    refine satisfiesM_bind_of_right fun b => ?_
    split
    · exact SatisfiesM.pure hacc
    · refine satisfiesM_bind_of_right fun _ => satisfiesM_bind_of_right fun key =>
        (satisfiesM_withReader hi _).bind fun v hv => ih ?_
      -- an entry with a null key is dropped
      split
      · intro kv hkv
        rcases Array.mem_push.mp hkv with hkv | rfl
        · exact hacc kv hkv
        · exact hv
      · exact hacc

theorem satisfiesM_objectLoop {item : Walk Value} (hi : SatisfiesM Value.Storable item) (n : Nat)
    (first : Bool) {acc : List (String × Value)} (hkeys : (acc.map Prod.fst).Nodup)
    (hacc : ∀ kv ∈ acc, kv.2.Storable) :
    SatisfiesM (fun r : List (String × Value) => (r.map Prod.fst).Nodup ∧ ∀ kv ∈ r, kv.2.Storable)
      (objectLoop item n first acc) := by
  induction n generalizing first acc with
  | zero => exact SatisfiesM.pure ⟨hkeys, hacc⟩
  | succ n ih =>
    refine satisfiesM_bind_of_right fun b => ?_
    split
    · exact SatisfiesM.pure ⟨hkeys, hacc⟩
    · refine satisfiesM_bind_of_right fun _ => satisfiesM_bind_of_right fun key =>
        (satisfiesM_withReader hi _).bind fun v hv =>
          ih false (KeyedList.nodup_keys_insert hkeys key v) ?_
      intro kv hkv
      rcases KeyedList.mem_insert hkv with hkv | rfl
      · exact hacc kv hkv
      · exact hv

section Fields

variable {setField : Nat → α → Walk α} (hs : ∀ i a, p a → SatisfiesM p (setField i a))
include hs

theorem satisfiesM_fieldsLoop (fields : List String) (n : Nat) (seen : List Nat) {acc : α}
    (hacc : p acc) : SatisfiesM p (fieldsLoop fields setField n seen acc) := by
  induction n generalizing seen acc with
  | zero => exact SatisfiesM.pure hacc
  | succ n ih =>
    refine satisfiesM_bind_of_right fun b => ?_
    split
    · exact SatisfiesM.pure hacc
    · refine satisfiesM_bind_of_right fun _ => satisfiesM_bind_of_right fun key => ?_
      split
      · -- a known field: read into the record, unless given before
        dsimp only
        split
        · exact satisfiesM_bind_of_right fun _ =>
            (satisfiesM_withReader (hs _ acc hacc) _).bind fun acc' hacc' => ih _ hacc'
        · exact (satisfiesM_withReader (hs _ acc hacc) _).bind fun acc' hacc' => ih _ hacc'
      · exact satisfiesM_bind_of_right fun _ => ih _ hacc

theorem satisfiesM_record (name : String) (fields : List String) {init : α} (hinit : p init) :
    SatisfiesM p (record name fields init setField) := by
  refine satisfiesM_withNode fun ev m => satisfiesM_placed ?_ m
  split
  · exact (satisfiesM_nested (satisfiesM_bind_of_right fun _ =>
      satisfiesM_fieldsLoop hs fields _ [] hinit) m).bind fun _ hr =>
        satisfiesM_bind_of_right fun _ => SatisfiesM.pure hr
  · split_ifs
    · exact SatisfiesM.pure hinit
    · exact satisfiesM_throw p _

end Fields

/-! ## The primitives -/

theorem satisfiesM_optional {x : Walk α} (hx : SatisfiesM p x) :
    SatisfiesM (fun o => ∀ a ∈ o, p a) (optional x) := by
  -- whether the node is null or not, the result is nothing or what `x` returns
  have hchoose : ∀ d : Walk Bool, SatisfiesM (fun o => ∀ a ∈ o, p a) (d >>= fun b =>
      if b = true then some <$> x
      else modify (fun c : Cursor => { c with pos := c.pos + 1 }) >>= fun _ => pure none) := by
    refine fun d => satisfiesM_bind_of_right fun b => ?_
    split
    · exact hx.map fun ha => by simpa using ha
    · exact satisfiesM_bind_of_right fun _ => SatisfiesM.pure (by simp)
  refine satisfiesM_bind_of_right fun ⟨ev, _⟩ => ?_
  dsimp only
  split
  · exact satisfiesM_bind_of_right fun _ =>
      satisfiesM_jump (satisfiesM_bind_of_right fun ⟨_, _⟩ => hchoose _) _
  · exact hchoose _

theorem satisfiesM_entries {item : Walk α} (hi : SatisfiesM p item) :
    SatisfiesM (fun kvs => ∀ kv ∈ kvs, p kv.2) (entries item) := by
  refine satisfiesM_withNode fun ev m => satisfiesM_placed ?_ m
  split
  · refine (satisfiesM_nested (satisfiesM_bind_of_right fun _ =>
      satisfiesM_entriesLoop hi _ (by simp)) m).bind fun r hr =>
        satisfiesM_bind_of_right fun _ => SatisfiesM.pure ?_
    exact fun kv hkv => hr kv (Array.mem_toList_iff.mp hkv)
  · split_ifs
    · exact SatisfiesM.pure (by simp)
    · exact satisfiesM_throw _ _

theorem satisfiesM_list {item : Walk α} (hi : SatisfiesM p item) :
    SatisfiesM (fun xs => ∀ a ∈ xs, p a) (list item) := by
  refine satisfiesM_withNode fun ev m => satisfiesM_placed ?_ m
  split
  · refine (satisfiesM_nested (satisfiesM_bind_of_right fun _ =>
      satisfiesM_itemsLoop hi _ 0 (by simp)) m).bind fun r hr =>
        satisfiesM_bind_of_right fun _ => SatisfiesM.pure ?_
    exact fun a ha => hr a (Array.mem_toList_iff.mp ha)
  · split_ifs
    · exact SatisfiesM.pure (by simp)
    · exact satisfiesM_throw _ _

/-- **A data value read at any depth is storable**: integers only within the
64-bit ranges, non-finite doubles as null, and mappings with distinct keys. -/
theorem satisfiesM_value (fuel : Nat) : SatisfiesM Value.Storable (value fuel) := by
  induction fuel with
  | zero => exact satisfiesM_throw _ _
  | succ f ih =>
    refine satisfiesM_withNode fun ev m => satisfiesM_placed ?_ m
    dsimp only
    split
    · -- a scalar, resolved by the core schema
      split_ifs
      · exact satisfiesM_throw _ _
      · split
        · exact satisfiesM_throw _ _
        · rename_i r hr
          have hb := resolveScalar_bounded hr
          split
          · exact SatisfiesM.pure .null
          · exact SatisfiesM.pure (.bool _)
          · exact SatisfiesM.pure (.int (by omega) (by exact_mod_cast hb))
          · exact SatisfiesM.pure (.int hb.1 hb.2)
          · exact satisfiesM_throw _ _
          · exact SatisfiesM.pure (Value.storable_ofDouble _)
          · exact SatisfiesM.pure (.str _)
    · split_ifs
      · exact satisfiesM_throw _ _
      · refine (satisfiesM_nested (satisfiesM_bind_of_right fun _ =>
          satisfiesM_itemsLoop ih _ 0 (by simp)) m).bind fun r hr =>
            satisfiesM_bind_of_right fun _ => SatisfiesM.pure ?_
        exact .arr fun v hv => hr v (Array.mem_toList_iff.mp hv)
    · split_ifs
      · exact satisfiesM_throw _ _
      · exact (satisfiesM_nested (satisfiesM_bind_of_right fun _ =>
          satisfiesM_objectLoop ih _ true (by simp) (by simp)) m).bind fun _ hr =>
            satisfiesM_bind_of_right fun _ => SatisfiesM.pure (.obj hr.1 hr.2)
    · exact SatisfiesM.pure .null

/-- **The YAML primitives are sound.** -/
theorem decoder_sound : decoder.Sound where
  optional := satisfiesM_optional
  record name fields _ _ hinit hs := satisfiesM_record hs name fields hinit
  entries := satisfiesM_entries
  list := satisfiesM_list
  value := satisfiesM_bind_of_right fun s => satisfiesM_value (s.depth + 1)
  exhausted p := satisfiesM_bind_of_right fun _ => satisfiesM_throw p _

end OpenApiLint.Yaml
