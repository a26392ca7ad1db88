import Mathlib
import OpenApiLint.Proofs.DecoderSound
/-!
# What the JSON primitives return

The JSON primitives keep the promises of `Decoder.Sound`: whatever a JSON
text holds, a record changes only through its field readers, lists and maps
hold only items that were read, and a data value is storable — its integers
lie in the 64-bit ranges and its objects have distinct keys.

A promise about a reader is a `SatisfiesM` statement, which for `Reader`
says that every successful run from every cursor returns a value with the
property (`Json.satisfiesM_iff`).  Reading that fails — a thrown error, the
recursion limit — promises anything.

## Main statements

* `Json.satisfiesM_value` — a data value read at any depth is storable.
* `Json.decoder_sound` — the JSON primitives are sound.
-/

namespace OpenApiLint

open Number

theorem Value.storable_ofDouble (x : Binary64) : (Value.ofDouble x).Storable := by
  unfold Value.ofDouble
  split
  · exact .float x
  · exact .null

namespace Json

variable {α β : Type} {p : α → Prop}

/-! ## Promises about readers -/

theorem satisfiesM_iff {x : Reader α} :
    SatisfiesM p x ↔ ∀ B c a c', runAt x B c = (.ok a, c') → p a := by
  rw [SatisfiesM_ReaderT_eq]
  simp only [SatisfiesM_ExceptT_eq, SatisfiesM_StateT_eq, SatisfiesM_Id_eq]
  constructor
  · intro h B c a c' hr
    exact h B c a (congrArg Prod.fst hr)
  · intro h B c a hr
    exact h B c a _ (Prod.ext hr rfl)

theorem satisfiesM_throw (p : α → Prop) (e : Error) : SatisfiesM p (throw e : Reader α) :=
  satisfiesM_iff.mpr fun _ _ _ _ h => by simp at h

theorem satisfiesM_failHere (p : α → Prop) (t : String) : SatisfiesM p (failHere t : Reader α) :=
  satisfiesM_bind_of_right fun _ => satisfiesM_bind_of_right fun _ => satisfiesM_throw p _

theorem satisfiesM_failAhead (p : α → Prop) (t : String) : SatisfiesM p (failAhead t : Reader α) :=
  satisfiesM_bind_of_right fun _ => satisfiesM_bind_of_right fun _ => satisfiesM_throw p _

theorem satisfiesM_peekInvalidType (p : α → Prop) (expected : String) :
    SatisfiesM p (peekInvalidType expected : Reader α) := by
  refine satisfiesM_bind_of_right fun _ => ?_
  dsimp only
  -- however the item found is named, every branch ends in the thrown mismatch
  split
  all_goals (try split) <;>
    repeat (first | exact satisfiesM_throw p _ | refine satisfiesM_bind_of_right fun _ => ?_)

theorem satisfiesM_attempt {x : Reader α} (hx : SatisfiesM p x) :
    SatisfiesM (fun r => ∀ a, r = .ok a → p a) (attempt x) := by
  rw [satisfiesM_iff] at hx ⊢
  intro B c r c' h a hr
  subst hr
  simp only [attempt, runAt_tryCatch, runAt_bind] at h
  rcases hxr : runAt x B c with ⟨_ | a', c''⟩
  · simp [hxr] at h
  · simp only [hxr, runAt_pure, Prod.mk.injEq, Except.ok.injEq] at h
    exact h.1 ▸ hx B c a' c'' hxr

/-- A bracketed body returns what the body returns, whatever the closing
bracket does. -/
theorem satisfiesM_bracketed {body : Reader α} (hb : SatisfiesM p body) (close : Reader Unit) :
    SatisfiesM p (bracketed body close) := by
  refine satisfiesM_bind_of_right fun _ => (satisfiesM_attempt hb).bind fun r hr =>
    satisfiesM_bind_of_right fun _ => satisfiesM_bind_of_right fun e => ?_
  -- the body's value is returned only when both the body and the close succeed
  rcases r with _ | v
  · exact satisfiesM_bind_of_right fun _ => satisfiesM_throw p _
  · rcases e with _ | _
    · exact satisfiesM_bind_of_right fun _ => satisfiesM_throw p _
    · exact SatisfiesM.pure (hr v rfl)

/-! ## Loops

Each loop keeps an invariant of its accumulator: every item in it was read
by the item reader. -/

theorem satisfiesM_itemsLoop {item : Reader α} (hi : SatisfiesM p item) (n : Nat) (first : Bool)
    {acc : Array α} (hacc : ∀ a ∈ acc, p a) :
    SatisfiesM (fun r : Array α => ∀ a ∈ r, p a) (itemsLoop item n first acc) := by
  induction n generalizing first acc with
  | zero => exact SatisfiesM.pure hacc
  | succ n ih =>
    refine satisfiesM_bind_of_right fun b => ?_
    split
    · refine hi.bind fun v hv => ih false ?_
      intro a ha
      rcases Array.mem_push.mp ha with ha | rfl
      · exact hacc a ha
      · exact hv
    · exact SatisfiesM.pure hacc

theorem satisfiesM_entriesLoop {item : Reader α} (hi : SatisfiesM p item) (n : Nat) (first : Bool)
    {acc : Array (String × α)} (hacc : ∀ kv ∈ acc, p kv.2) :
    SatisfiesM (fun r : Array (String × α) => ∀ kv ∈ r, p kv.2) (entriesLoop item n first acc) := by
  induction n generalizing first acc with
  | zero => exact SatisfiesM.pure hacc
  | succ n ih =>
    refine satisfiesM_bind_of_right fun b => ?_
    split
    · refine satisfiesM_bind_of_right fun k => satisfiesM_bind_of_right fun _ =>
        hi.bind fun v hv => ih false ?_
      intro kv hkv
      rcases Array.mem_push.mp hkv with hkv | rfl
      · exact hacc kv hkv
      · exact hv
    · exact SatisfiesM.pure hacc

section Fields

variable {setField : Nat → α → Reader α} (hs : ∀ i a, p a → SatisfiesM p (setField i a))
include hs

theorem satisfiesM_fieldsFromItems (count i : Nat) (first : Bool) {acc : α} (hacc : p acc) :
    SatisfiesM p (fieldsFromItems count setField i first acc) := by
  -- on the fields still to fill
  fun_induction fieldsFromItems count setField i first acc with
  | case1 i first acc hi ih₁ ih₂ =>
    refine satisfiesM_bind_of_right fun b => ?_
    split
    · exact (hs i acc hacc).bind fun acc' hacc' => ih₁ acc' hacc'
    · exact ih₂ hacc
  | case2 => exact SatisfiesM.pure hacc

theorem satisfiesM_fieldsFromEntries (fields : List String) (n : Nat) (first : Bool)
    (seen : List Nat) {acc : α} (hacc : p acc) :
    SatisfiesM p (fieldsFromEntries fields setField n first seen acc) := by
  induction n generalizing first seen acc with
  | zero => exact SatisfiesM.pure hacc
  | succ n ih =>
    refine satisfiesM_bind_of_right fun b => ?_
    split
    · refine satisfiesM_bind_of_right fun k => ?_
      split
      · -- a known field: read into the record, unless given before
        split
        · exact satisfiesM_throw p _
        · exact satisfiesM_bind_of_right fun _ => (hs _ acc hacc).bind fun acc' hacc' => ih _ _ hacc'
      · exact satisfiesM_bind_of_right fun _ => satisfiesM_bind_of_right fun _ => ih _ _ hacc
    · exact SatisfiesM.pure hacc

theorem satisfiesM_record (name : String) (fields : List String) {init : α} (hinit : p init) :
    SatisfiesM p (record name fields init setField) := by
  refine satisfiesM_bind_of_right fun b => ?_
  split
  · exact satisfiesM_bracketed (satisfiesM_fieldsFromItems hs _ 0 true hinit) _
  · exact satisfiesM_bracketed
      (satisfiesM_bind_of_right fun n => satisfiesM_fieldsFromEntries hs fields n true [] hinit) _
  · exact satisfiesM_peekInvalidType p _
  · exact satisfiesM_failAhead p _

end Fields

/-! ## The primitives -/

theorem satisfiesM_optional {x : Reader α} (hx : SatisfiesM p x) :
    SatisfiesM (fun o => ∀ a ∈ o, p a) (optional x) := by
  refine satisfiesM_bind_of_right fun b => ?_
  split
  · exact satisfiesM_bind_of_right fun _ => satisfiesM_bind_of_right fun _ =>
      SatisfiesM.pure (by simp)
  · exact hx.map fun ha => by simpa using ha

theorem satisfiesM_entries {item : Reader α} (hi : SatisfiesM p item) :
    SatisfiesM (fun kvs => ∀ kv ∈ kvs, p kv.2) (entries item) := by
  refine satisfiesM_bind_of_right fun b => ?_
  split
  · refine satisfiesM_bracketed (satisfiesM_bind_of_right fun n =>
      (satisfiesM_entriesLoop hi n true (by simp)).bind fun r hr => SatisfiesM.pure ?_) _
    exact fun kv hkv => hr kv (Array.mem_toList_iff.mp hkv)
  · exact satisfiesM_peekInvalidType _ _
  · exact satisfiesM_failAhead _ _

theorem satisfiesM_list {item : Reader α} (hi : SatisfiesM p item) :
    SatisfiesM (fun xs => ∀ a ∈ xs, p a) (list item) := by
  refine satisfiesM_bind_of_right fun b => ?_
  split
  · refine satisfiesM_bracketed (satisfiesM_bind_of_right fun n =>
      (satisfiesM_itemsLoop hi n true (by simp)).bind fun r hr => SatisfiesM.pure ?_) _
    exact fun a ha => hr a (Array.mem_toList_iff.mp ha)
  · exact satisfiesM_peekInvalidType _ _
  · exact satisfiesM_failAhead _ _

/-! ## Numbers and data values -/

/-- A number's data value is storable once its integer part is within the
unsigned 64-bit range: a negative integer beyond the signed range is read as a
double. -/
theorem satisfiesM_parseNumberTail (positive : Bool) {s : Nat} (hs : s ≤ u64Max) :
    SatisfiesM (fun n : Number => n.toValue.Storable) (parseNumberTail positive s) := by
  have hmax : (s : Int) ≤ (u64Max : Int) := by exact_mod_cast hs
  refine satisfiesM_bind_of_right fun b => ?_
  split_ifs with hpoint hexp hpos hzero hsigned
  · exact satisfiesM_bind_of_right fun x => SatisfiesM.pure (Value.storable_ofDouble x)
  · exact satisfiesM_bind_of_right fun x => SatisfiesM.pure (Value.storable_ofDouble x)
  · exact SatisfiesM.pure (.int (by omega) hmax)
  · exact SatisfiesM.pure (Value.storable_ofDouble _)
  · have hlo : (s : Int) ≤ 2 ^ 63 := by simpa [Nat.pow_eq] using hsigned
    exact SatisfiesM.pure (.int (by omega) (by omega))
  · exact SatisfiesM.pure (Value.storable_ofDouble _)

/-- The digit loop keeps the integer read so far within the unsigned range:
one more digit that would leave it makes the number a double. -/
theorem satisfiesM_parseNumber_digits (positive : Bool) (n : Nat) {s : Nat} (hs : s ≤ u64Max) :
    SatisfiesM (fun r : Number => r.toValue.Storable) (parseNumber.digits positive n s) := by
  induction n generalizing s with
  | zero => exact satisfiesM_parseNumberTail positive hs
  | succ n ih =>
    refine satisfiesM_bind_of_right fun d => ?_
    dsimp only
    split_ifs with hd hbig
    · exact satisfiesM_bind_of_right fun x => SatisfiesM.pure (Value.storable_ofDouble x)
    · exact satisfiesM_bind_of_right fun _ => ih (by omega)
    · exact satisfiesM_parseNumberTail positive hs

theorem satisfiesM_parseNumber (positive : Bool) :
    SatisfiesM (fun r : Number => r.toValue.Storable) (parseNumber positive) := by
  refine satisfiesM_bind_of_right fun o => ?_
  split
  · exact satisfiesM_failHere _ _
  · rename_i c
    split_ifs with hzero hdigit
    · refine satisfiesM_bind_of_right fun d => ?_
      split_ifs
      · exact satisfiesM_failAhead _ _
      · exact satisfiesM_parseNumberTail positive (Nat.zero_le _)
    · have hc := c.toNat_lt
      exact satisfiesM_bind_of_right fun n =>
        satisfiesM_parseNumber_digits positive n (by simp only [u64Max, Nat.pow_eq]; omega)
    · exact satisfiesM_failHere _ _

/-- **A data value read at any depth is storable**: its integers lie in the
64-bit ranges and its objects, duplicate keys merged, have distinct keys. -/
theorem satisfiesM_value (fuel : Nat) : SatisfiesM Value.Storable (value fuel) := by
  induction fuel with
  | zero => exact satisfiesM_failAhead _ _
  | succ f ih =>
    refine satisfiesM_bind_of_right fun b => ?_
    split
    · exact satisfiesM_bind_of_right fun _ => satisfiesM_bind_of_right fun _ =>
        SatisfiesM.pure .null
    · exact satisfiesM_bind_of_right fun _ => satisfiesM_bind_of_right fun _ =>
        SatisfiesM.pure (.bool true)
    · exact satisfiesM_bind_of_right fun _ => satisfiesM_bind_of_right fun _ =>
        SatisfiesM.pure (.bool false)
    · exact satisfiesM_bind_of_right fun _ =>
        (satisfiesM_parseNumber false).bind fun _ hn => SatisfiesM.pure hn
    · exact satisfiesM_bind_of_right fun _ => satisfiesM_bind_of_right fun s =>
        SatisfiesM.pure (.str s)
    · refine satisfiesM_bracketed (satisfiesM_bind_of_right fun n =>
        (satisfiesM_itemsLoop ih n true (by simp)).bind fun r hr => SatisfiesM.pure ?_) _
      exact .arr fun v hv => hr v (Array.mem_toList_iff.mp hv)
    · refine satisfiesM_bracketed (satisfiesM_bind_of_right fun n =>
        (satisfiesM_entriesLoop ih n true (by simp)).bind fun r hr => SatisfiesM.pure ?_) _
      exact .obj (KeyedList.nodup_keys_ofList _)
        fun kv hkv => hr kv (Array.mem_toList_iff.mp (KeyedList.mem_ofList hkv))
    · split_ifs
      · exact (satisfiesM_parseNumber true).bind fun _ hn => SatisfiesM.pure hn
      · exact satisfiesM_failAhead _ _
    · exact satisfiesM_failAhead _ _

/-- **The JSON primitives are sound.** -/
theorem decoder_sound : decoder.Sound where
  optional := satisfiesM_optional
  record name fields _ _ hinit hs := satisfiesM_record hs name fields hinit
  entries := satisfiesM_entries
  list := satisfiesM_list
  value := satisfiesM_bind_of_right fun c => satisfiesM_value (c.depth + 1)
  exhausted p := satisfiesM_failHere p _

end Json

end OpenApiLint
