import Mathlib
import OpenApiLint.Proofs.DocumentRead
/-!
# What reading keeps, whatever the notation

A document is read with the primitives of a notation (`Decoder`).  When
each primitive keeps what it is given — a record built by field readers that
keep a property has it, a list or a map read item by item holds only items
that were read, and a data value is storable — every document read is
`Document.Storable`: its maps have distinct keys and its data values are
storable.  That is what the compact text of a document needs in order to
read back (`Json.readDocument_compact`).

The promises are stated with `SatisfiesM`, over any lawful monad, so they are
proved once here for every notation; the JSON and YAML primitives keep them.

## Main definitions

* `Decoder.Sound` — what the primitives of a notation promise.

## Main statements

* `Decoder.Sound.document` — a sound notation reads storable documents.
-/

namespace OpenApiLint

theorem Schema.storable_iff {s : Schema} : s.Storable ↔ (s.properties.map Prod.fst).Nodup ∧
    (∀ kv ∈ s.properties, ∀ t ∈ kv.2, t.Storable) ∧ ∀ v ∈ s.enumValues, v.Storable := by
  constructor
  · rintro ⟨keys, nested, enum⟩
    exact ⟨keys, nested, enum⟩
  · obtain ⟨properties, enumValues⟩ := s
    rintro ⟨keys, nested, enum⟩
    exact .mk keys nested enum

theorem PathItem.operation_setOperation (item : PathItem) (m m' : Method) (o : Option Operation) :
    (item.setOperation m o).operation m' = if m' = m then o else item.operation m' := by
  cases m <;> cases m' <;> rfl

theorem PathItem.Storable.setOperation {item : PathItem} (h : item.Storable) (m : Method)
    {o : Option Operation} (ho : ∀ op ∈ o, op.Storable) : (item.setOperation m o).Storable where
  parameters := by cases m <;> exact h.parameters
  operations m' op hop := by
    rw [PathItem.operation_setOperation] at hop
    split at hop
    · exact ho op hop
    · exact h.operations m' op hop

/-- Dropping the entries with no value keeps the order of the other keys. -/
theorem KeyedList.keys_filterMap_sublist {α : Type} (kvs : List (String × Option α)) :
    ((kvs.filterMap fun (k, v) => v.map (k, ·)).map Prod.fst).Sublist (kvs.map Prod.fst) := by
  induction kvs with
  | nil => simp
  | cons kv rest ih =>
    obtain ⟨k, _ | v⟩ := kv
    · simpa using ih.cons k
    · simpa using ih.cons_cons k

/-- What a computation returns after a first step is what the rest returns. -/
theorem satisfiesM_bind_of_right {m : Type → Type} [Monad m] [LawfulMonad m] {α β : Type}
    {p : α → Prop} {x : m β} {f : β → m α} (h : ∀ b, SatisfiesM p (f b)) :
    SatisfiesM p (x >>= f) :=
  SatisfiesM.trivial.bind fun b _ => h b

namespace Decoder

variable {m : Type → Type} [Monad m] [LawfulMonad m]

/-- What the primitives of a notation promise about what they return.  Each
promise is about results only: a primitive may fail anywhere. -/
structure Sound (D : Decoder m) : Prop where
  /-- An optional part holds only what its reader returns. -/
  optional {α : Type} {p : α → Prop} {x : m α} :
    SatisfiesM p x → SatisfiesM (fun o => ∀ a ∈ o, p a) (D.optional x)
  /-- A record starts from `init` and changes only through its field readers. -/
  record {α : Type} {p : α → Prop} (name : String) (fields : List String) {init : α}
    {setField : Nat → α → m α} : p init → (∀ i a, p a → SatisfiesM p (setField i a)) →
      SatisfiesM p (D.record name fields init setField)
  /-- A map's entries hold only values its reader returns. -/
  entries {α : Type} {p : α → Prop} {x : m α} :
    SatisfiesM p x → SatisfiesM (fun kvs => ∀ kv ∈ kvs, p kv.2) (D.entries x)
  /-- A list holds only items its reader returns. -/
  list {α : Type} {p : α → Prop} {x : m α} :
    SatisfiesM p x → SatisfiesM (fun xs => ∀ a ∈ xs, p a) (D.list x)
  /-- A data value is storable. -/
  value : SatisfiesM Value.Storable D.value
  /-- Going too deep returns nothing. -/
  exhausted {α : Type} (p : α → Prop) : SatisfiesM p (D.exhausted : m α)

variable {D : Decoder m}

namespace Sound

/-! ## Lists and maps -/

theorem nullableList (h : D.Sound) {α : Type} {p : α → Prop} {x : m α} (hx : SatisfiesM p x) :
    SatisfiesM (fun xs => ∀ a ∈ xs, p a) (D.nullableList x) := by
  refine (h.optional (h.list (h.optional hx))).bind fun xs hxs => SatisfiesM.pure ?_
  intro a ha
  obtain ⟨o, ho, rfl⟩ := List.mem_filterMap.mp ha
  cases xs with
  | none => simp at ho
  | some ys => exact hxs ys rfl _ ho _ rfl

/-- A keyed map has distinct keys and holds only values its reader returns. -/
theorem keyedMap (h : D.Sound) {α : Type} {p : α → Prop} {x : m α} (hx : SatisfiesM p x) :
    SatisfiesM (fun kvs => (kvs.map Prod.fst).Nodup ∧ ∀ kv ∈ kvs, p kv.2) (D.keyedMap x) := by
  refine (h.optional (h.entries hx)).bind fun kvs hkvs => SatisfiesM.pure ⟨?_, ?_⟩
  · exact KeyedList.nodup_keys_ofList _
  · intro kv hkv
    cases kvs with
    | none => simp [KeyedList.ofList] at hkv
    | some es => exact hkvs es rfl kv (KeyedList.mem_ofList hkv)

theorem nullableMap (h : D.Sound) {α : Type} {p : α → Prop} {x : m α} (hx : SatisfiesM p x) :
    SatisfiesM (fun kvs => (kvs.map Prod.fst).Nodup ∧ ∀ kv ∈ kvs, p kv.2) (D.nullableMap x) := by
  refine (h.keyedMap (h.optional hx)).bind fun kvs hkvs => SatisfiesM.pure ⟨?_, ?_⟩
  · exact (KeyedList.keys_filterMap_sublist kvs).nodup hkvs.1
  · intro kv hkv
    obtain ⟨⟨k, o⟩, hko, hkv'⟩ := List.mem_filterMap.mp hkv
    obtain ⟨a, rfl, rfl⟩ := Option.map_eq_some_iff.mp hkv'
    exact hkvs.2 _ hko a rfl

/-! ## The parts of a document -/

theorem parameter (h : D.Sound) : SatisfiesM Parameter.Storable D.parameter := by
  refine h.record _ _ (fun v hv => by simp at hv) fun i p hp => ?_
  rcases i with _ | _ | i
  · exact satisfiesM_bind_of_right fun _ => SatisfiesM.pure hp
  · exact satisfiesM_bind_of_right fun _ => SatisfiesM.pure hp
  · exact (h.optional h.value).bind fun _ ho => SatisfiesM.pure ho

theorem operation (h : D.Sound) : SatisfiesM Operation.Storable D.operation := by
  refine h.record _ _ ⟨by simp, by simp, by simp⟩ fun i op hop => ?_
  -- the three texts leave the parameters and responses as they were
  rcases i with _ | _ | _ | _ | i
  · exact satisfiesM_bind_of_right fun _ =>
      SatisfiesM.pure ⟨hop.parameters, hop.keys, hop.responses⟩
  · exact satisfiesM_bind_of_right fun _ =>
      SatisfiesM.pure ⟨hop.parameters, hop.keys, hop.responses⟩
  · exact satisfiesM_bind_of_right fun _ =>
      SatisfiesM.pure ⟨hop.parameters, hop.keys, hop.responses⟩
  · exact (h.nullableList h.parameter).bind fun _ hps =>
      SatisfiesM.pure ⟨hps, hop.keys, hop.responses⟩
  · exact (h.keyedMap h.value).bind fun _ hrs =>
      SatisfiesM.pure ⟨hop.parameters, hrs.1, hrs.2⟩

theorem pathItem (h : D.Sound) : SatisfiesM PathItem.Storable D.pathItem := by
  refine h.record _ _ ⟨by simp, fun m op hop => by cases m <;> simp [PathItem.operation] at hop⟩
    fun i item hitem => ?_
  rcases i with _ | i
  · exact (h.nullableList h.parameter).bind fun _ hps =>
      SatisfiesM.pure ⟨hps, hitem.operations⟩
  · exact (h.optional h.operation).bind fun _ ho =>
      SatisfiesM.pure (hitem.setOperation _ ho)

/-- Schemas read with any fuel are storable, at every depth. -/
theorem schema (h : D.Sound) (fuel : Nat) : SatisfiesM Schema.Storable (D.schema fuel) := by
  -- on the fuel: a property's schema is read with one less
  induction fuel with
  | zero => exact h.exhausted _
  | succ f ih =>
    refine h.record _ _ (Schema.storable_iff.mpr ⟨by simp, by simp, by simp⟩) fun i s hs => ?_
    obtain ⟨hkeys, hnested, henum⟩ := Schema.storable_iff.mp hs
    rcases i with _ | i
    · exact (h.keyedMap (h.optional ih)).bind fun _ hps =>
        SatisfiesM.pure (Schema.storable_iff.mpr ⟨hps.1, hps.2, henum⟩)
    · exact (h.nullableList h.value).bind fun _ hvs =>
        SatisfiesM.pure (Schema.storable_iff.mpr ⟨hkeys, hnested, hvs⟩)

theorem components (h : D.Sound) : SatisfiesM
    (fun cs : Components => (cs.schemas.map Prod.fst).Nodup ∧ ∀ kv ∈ cs.schemas, kv.2.Storable)
    D.components :=
  h.record _ _ ⟨by simp, by simp⟩ fun _ _ _ =>
    (h.nullableMap (h.schema schemaDepth)).bind fun _ hss => SatisfiesM.pure hss

/-- **A sound notation reads storable documents**: the paths and schemas of
every document read have distinct names, and every data value in it is
storable. -/
theorem document (h : D.Sound) : SatisfiesM Document.Storable D.document := by
  refine h.record _ _ ⟨by simp, by simp, by simp [Document.schemas], by simp [Document.schemas]⟩
    fun i d hd => ?_
  rcases i with _ | _ | _ | i
  · exact satisfiesM_bind_of_right fun _ =>
      SatisfiesM.pure ⟨hd.pathKeys, hd.paths, hd.schemaKeys, hd.schemas⟩
  · exact satisfiesM_bind_of_right fun _ =>
      SatisfiesM.pure ⟨hd.pathKeys, hd.paths, hd.schemaKeys, hd.schemas⟩
  · exact (h.nullableMap h.pathItem).bind fun _ hps =>
      SatisfiesM.pure ⟨hps.1, hps.2, hd.schemaKeys, hd.schemas⟩
  · refine (h.optional h.components).bind fun o ho => SatisfiesM.pure ?_
    -- an absent components object reads as the empty one
    cases o with
    | none => exact ⟨hd.pathKeys, hd.paths, by simp [Document.schemas], by simp [Document.schemas]⟩
    | some cs => exact ⟨hd.pathKeys, hd.paths, (ho cs rfl).1, (ho cs rfl).2⟩

end Sound

end Decoder

end OpenApiLint
