import Mathlib
import OpenApiLint.Proofs.JsonData
import OpenApiLint.Document.Encode
/-!
# Documents read back from their compact text

The data form of a document (`Document.toValue`), written as compact text
and read as a JSON document, gives the document back, under three
conditions:

* it is `Storable`: its maps have distinct keys and its data values are
  storable.  Reading guarantees this, whatever the notation read
  (`OpenApiLint.Proofs.DecoderSound`);
* it is `NullFree`: no enum member and no parameter schema is null.  The
  data form writes such a null, and reading drops it — a null enum member
  disappears, a null schema reads as no schema.  A JSON text never yields
  such a null; a YAML one can, from a non-finite number;
* its data form nests less deep than the JSON reader allows, and its doubles
  read back.

Each part of a document is read by its `Decoder` reader, and each gets a
lemma saying that this reader reads its data form back; records go through
`Json.reads_record`, field by field.

## Main statements

* `Json.reads_document` — a document's data form reads back.
* `Json.readDocument_compact` — so does its compact text, as a whole text.
-/

namespace OpenApiLint

open Number

/-! ## What compact text carries -/

/-- A parameter whose schema compact text carries. -/
def Parameter.Storable (p : Parameter) : Prop := ∀ v ∈ p.schema, v.Storable

/-- An operation whose parameters and responses compact text carries. -/
structure Operation.Storable (op : Operation) : Prop where
  parameters : ∀ p ∈ op.parameters, p.Storable
  keys : (op.responses.map Prod.fst).Nodup
  responses : ∀ kv ∈ op.responses, kv.2.Storable

/-- A path item whose parameters and operations compact text carries. -/
structure PathItem.Storable (item : PathItem) : Prop where
  parameters : ∀ p ∈ item.parameters, p.Storable
  operations : ∀ m, ∀ op ∈ item.operation m, op.Storable

/-- A schema whose property names are distinct and whose enum members compact
text carries, at every depth. -/
inductive Schema.Storable : Schema → Prop
  | mk {properties : List (String × Option Schema)} {enumValues : List Value}
      (keys : (properties.map Prod.fst).Nodup)
      (nested : ∀ kv ∈ properties, ∀ s ∈ kv.2, Schema.Storable s)
      (enum : ∀ v ∈ enumValues, v.Storable) : Schema.Storable ⟨properties, enumValues⟩

/-- A document that compact text carries: its paths and schemas have distinct
names, and every part of them is carried. -/
structure Document.Storable (d : Document) : Prop where
  pathKeys : (d.paths.map Prod.fst).Nodup
  paths : ∀ kv ∈ d.paths, kv.2.Storable
  schemaKeys : (d.schemas.map Prod.fst).Nodup
  schemas : ∀ kv ∈ d.schemas, kv.2.Storable

/-! ## Where reading drops a null -/

/-- A parameter whose schema, if it has one, is not null. -/
def Parameter.NullFree (p : Parameter) : Prop := p.schema ≠ some .null

/-- A path item none of whose parameters, its own or its operations', has a
null schema. -/
structure PathItem.NullFree (item : PathItem) : Prop where
  parameters : ∀ p ∈ item.parameters, p.NullFree
  operations : ∀ m, ∀ op ∈ item.operation m, ∀ p ∈ op.parameters, p.NullFree

/-- A schema with no null enum member, at any depth. -/
inductive Schema.NullFree : Schema → Prop
  | mk {properties : List (String × Option Schema)} {enumValues : List Value}
      (nested : ∀ kv ∈ properties, ∀ s ∈ kv.2, Schema.NullFree s)
      (enum : ∀ v ∈ enumValues, v ≠ .null) : Schema.NullFree ⟨properties, enumValues⟩

/-- A document with no null enum member and no null parameter schema. -/
structure Document.NullFree (d : Document) : Prop where
  paths : ∀ kv ∈ d.paths, kv.2.NullFree
  schemas : ∀ kv ∈ d.schemas, kv.2.NullFree

/-! ## The data form, field by field -/

theorem Parameter.toValue_eq (p : Parameter) :
    p.toValue = .obj (["name", "in", "schema"].zip
      ([optionalText p.name, optionalText p.location] ++ p.schema.toList)) := by
  cases h : p.schema <;> simp [Parameter.toValue, h]

theorem Operation.toValue_eq (op : Operation) :
    op.toValue = .obj (["description", "summary", "operationId", "parameters", "responses"].zip
      [optionalText op.description, optionalText op.summary, optionalText op.operationId,
        .arr (op.parameters.map Parameter.toValue), .obj op.responses]) := rfl

theorem PathItem.toValue_eq (item : PathItem) :
    item.toValue = .obj (("parameters" :: Method.all.map Method.fieldName).zip
      (.arr (item.parameters.map Parameter.toValue) ::
        Method.all.map fun m => ((item.operation m).map Operation.toValue).getD .null)) := rfl

theorem propertiesToValue_eq (props : List (String × Option Schema)) :
    propertiesToValue props = props.map fun kv => (kv.1, (kv.2.map Schema.toValue).getD .null) := by
  induction props with
  | nil => rfl
  | cons kv rest ih =>
    obtain ⟨k, _ | s⟩ := kv <;> simp [propertiesToValue, ih]

theorem Schema.toValue_eq (s : Schema) :
    s.toValue = .obj (["properties", "enum"].zip (.obj (propertiesToValue s.properties) ::
      if s.enumValues.isEmpty then [] else [.arr s.enumValues])) := by
  obtain ⟨properties, enumValues⟩ := s
  rw [Schema.toValue]
  split <;> rfl

theorem Schema.toValue_ne_null (s : Schema) : s.toValue ≠ .null := by
  rw [Schema.toValue_eq]
  exact Value.noConfusion

theorem mem_propertiesToValue {props : List (String × Option Schema)} {kv : String × Option Schema}
    (hkv : kv ∈ props) {s : Schema} (hs : s ∈ kv.2) : (kv.1, s.toValue) ∈ propertiesToValue props := by
  rw [propertiesToValue_eq]
  exact List.mem_map.mpr ⟨kv, hkv, by simp [Option.mem_def.mp hs]⟩

theorem Info.toValue_eq (i : Info) :
    i.toValue = .obj (["title", "version"].zip [optionalText i.title, optionalText i.version]) := rfl

theorem Document.toValue_eq (d : Document) :
    d.toValue = .obj (["openapi", "info", "paths", "components"].zip
      [optionalText d.openapi, (d.info.map Info.toValue).getD .null,
        .obj (d.paths.map fun kv => (kv.1, kv.2.toValue)),
        .obj (["schemas"].zip [.obj (d.schemas.map fun kv => (kv.1, kv.2.toValue))])]) := rfl

namespace Json

variable {α β : Type}

/-! ## Doubles and depth of parts -/

theorem readsBack_of_mem_obj {es : List (String × Value)} (h : ∀ x ∈ (Value.obj es).doubles, ReadsBack x)
    {kv : String × Value} (hkv : kv ∈ es) : ∀ x ∈ kv.2.doubles, ReadsBack x :=
  fun x hx => h x (by simpa [Value.doubles] using Value.mem_doubles_of_mem_entries hkv hx)

theorem readsBack_of_mem_arr {vs : List Value} (h : ∀ x ∈ (Value.arr vs).doubles, ReadsBack x)
    {v : Value} (hv : v ∈ vs) : ∀ x ∈ v.doubles, ReadsBack x :=
  fun x hx => h x (by simpa [Value.doubles] using Value.mem_doubles_of_mem_items hv hx)

theorem depth_lt_of_mem_obj {es : List (String × Value)} {kv : String × Value} (hkv : kv ∈ es) :
    kv.2.depth < (Value.obj es).depth := by
  have := Value.depth_le_entriesDepth hkv
  simp only [Value.depth]
  omega

theorem mem_zip_of_mem {fields : List String} {vs : List Value} (hlen : vs.length ≤ fields.length)
    {v : Value} (hv : v ∈ vs) : ∃ k, (k, v) ∈ fields.zip vs := by
  obtain ⟨i, hi, rfl⟩ := List.getElem_of_mem hv
  exact ⟨fields[i], List.mem_iff_getElem.mpr ⟨i, by simp; omega, by simp⟩⟩

/-- The doubles of a record's field values are doubles of the record. -/
theorem readsBack_of_mem_zip {fields : List String} {vs : List Value}
    (h : ∀ x ∈ (Value.obj (fields.zip vs)).doubles, ReadsBack x) (hlen : vs.length ≤ fields.length)
    {v : Value} (hv : v ∈ vs) : ∀ x ∈ v.doubles, ReadsBack x := by
  obtain ⟨k, hk⟩ := mem_zip_of_mem hlen hv
  exact readsBack_of_mem_obj h hk

/-- A record's field values nest less deep than the record. -/
theorem depth_lt_of_mem_zip (fields : List String) {vs : List Value} (hlen : vs.length ≤ fields.length)
    {v : Value} (hv : v ∈ vs) : v.depth < (Value.obj (fields.zip vs)).depth := by
  obtain ⟨k, hk⟩ := mem_zip_of_mem hlen hv
  exact depth_lt_of_mem_obj hk

/-! ## Optional parts, lists and maps -/

theorem reads_optText (o : Option String) : Reads decoder.optText (optionalText o) o := by
  cases o with
  | none => exact reads_optional_null text
  | some s => exact reads_optional_some (by simp [optionalText]) (reads_text s)

/-- Text that may be absent reads back as any scalar does. -/
theorem reads_lenient (o : Option String) : Reads decoder.lenient (optionalText o) o := by
  cases o with
  | none => exact (reads_optional_null scalarText).bind_pure fun s => s.bind id
  | some s =>
    exact (reads_optional_some (by simp) (reads_scalarText s)).bind_pure fun s => s.bind id

/-- Something optional reads back from its data form, null when absent. -/
theorem reads_optional {x : Reader α} {toValue : α → Value} (hv : ∀ a, toValue a ≠ .null)
    {o : Option α} (h : ∀ a ∈ o, Reads x (toValue a) a) :
    Reads (decoder.optional x) ((o.map toValue).getD .null) o := by
  cases o with
  | none => exact reads_optional_null x
  | some a => exact reads_optional_some (hv a) (h a rfl)

/-- **A list read with nulls dropped reads back**, when none of its items is null. -/
theorem reads_nullableList {item : Reader α} {vs : List Value} {xs : List α}
    (h : List.Forall₂ (fun v x => v ≠ .null ∧ Reads item v x) vs xs) :
    Reads (decoder.nullableList item) (.arr vs) xs := by
  have hs : List.Forall₂ (Reads (decoder.optional item)) vs (xs.map some) :=
    List.forall₂_map_right_iff.mpr (h.imp fun _ _ hx => reads_optional_some hx.1 hx.2)
  have hl := (reads_optional_some (by simp) (reads_list hs)).bind_pure
    fun ys => (ys.getD []).filterMap id
  have he : ((some (xs.map some)).getD []).filterMap id = xs := by simp
  rw [he] at hl
  exact hl

/-- **A keyed map reads back**, when its keys are distinct. -/
theorem reads_keyedMap {item : Reader α} {es : List (String × Value)} {kvs : List (String × α)}
    (h : List.Forall₂ (fun kv ka => kv.1 = ka.1 ∧ Reads item kv.2 ka.2) es kvs)
    (hk : (kvs.map Prod.fst).Nodup) : Reads (decoder.keyedMap item) (.obj es) kvs := by
  have hm := (reads_optional_some (by simp) (reads_entries h)).bind_pure
    fun ys => KeyedList.ofList (ys.getD [])
  rw [Option.getD_some, KeyedList.ofList_of_nodup hk] at hm
  exact hm

/-- A map read with null values dropped reads back, when its keys are distinct
and none of its values is null. -/
theorem reads_nullableMap {item : Reader α} {es : List (String × Value)} {kvs : List (String × α)}
    (h : List.Forall₂ (fun kv ka => kv.1 = ka.1 ∧ kv.2 ≠ .null ∧ Reads item kv.2 ka.2) es kvs)
    (hk : (kvs.map Prod.fst).Nodup) : Reads (decoder.nullableMap item) (.obj es) kvs := by
  have hs : List.Forall₂ (fun kv ka => kv.1 = ka.1 ∧ Reads (decoder.optional item) kv.2 ka.2) es
      (kvs.map fun kv => (kv.1, some kv.2)) :=
    List.forall₂_map_right_iff.mpr (h.imp fun _ _ hx => ⟨hx.1, reads_optional_some hx.2.1 hx.2.2⟩)
  exact ((reads_keyedMap hs (by simpa [Function.comp_def] using hk)).bind_pure _).of_eq (by simp)

/-- A map of parts, each written as data, reads back when each part does. -/
theorem reads_nullableMap_map {item : Reader α} {toValue : α → Value} {kvs : List (String × α)}
    (hv : ∀ a, toValue a ≠ .null) (hk : (kvs.map Prod.fst).Nodup)
    (h : ∀ kv ∈ kvs, Reads item (toValue kv.2) kv.2) :
    Reads (decoder.nullableMap item) (.obj (kvs.map fun kv => (kv.1, toValue kv.2))) kvs :=
  reads_nullableMap (List.forall₂_map_left_iff.mpr (List.forall₂_same.mpr fun kv hkv =>
    ⟨rfl, hv kv.2, h kv hkv⟩)) hk

/-! ## The parts of a document -/

/-- **A parameter reads back** from its data form. -/
theorem reads_parameter {p : Parameter} (hs : p.Storable) (hn : p.NullFree)
    (hf : ∀ x ∈ p.toValue.doubles, ReadsBack x) : Reads decoder.parameter p.toValue p := by
  rw [Parameter.toValue_eq] at hf ⊢
  obtain ⟨name, location, schema⟩ := p
  apply reads_record (by decide) (by cases schema <;> simp)
  cases schema with
  | none => exact ⟨_, (reads_optText name).bind_pure _, _, (reads_optText location).bind_pure _, rfl⟩
  | some v =>
    -- the schema is written, and it is not null, so reading keeps it
    have hv : v ≠ .null := fun he => hn (by rw [he])
    have hfv := readsBack_of_mem_zip hf (by simp) (by simp : v ∈ [optionalText name, optionalText location] ++ [v])
    exact ⟨_, (reads_optText name).bind_pure _, _, (reads_optText location).bind_pure _, _,
      (reads_optional_some hv (reads_decoder_value (hs v rfl) hfv)).bind_pure _, rfl⟩

/-- A list of parameters reads back, none of them dropped. -/
theorem reads_parameters {ps : List Parameter} (hs : ∀ p ∈ ps, p.Storable) (hn : ∀ p ∈ ps, p.NullFree)
    (hf : ∀ x ∈ (Value.arr (ps.map Parameter.toValue)).doubles, ReadsBack x) :
    Reads (decoder.nullableList decoder.parameter) (.arr (ps.map Parameter.toValue)) ps :=
  reads_nullableList (List.forall₂_map_left_iff.mpr (List.forall₂_same.mpr fun p hp =>
    ⟨by simp [Parameter.toValue], reads_parameter (hs p hp) (hn p hp)
      (readsBack_of_mem_arr hf (List.mem_map_of_mem hp))⟩))

/-- **An operation reads back** from its data form. -/
theorem reads_operation {op : Operation} (hs : op.Storable) (hn : ∀ p ∈ op.parameters, p.NullFree)
    (hf : ∀ x ∈ op.toValue.doubles, ReadsBack x) : Reads decoder.operation op.toValue op := by
  rw [Operation.toValue_eq] at hf ⊢
  have hparams := reads_parameters hs.parameters hn
    (readsBack_of_mem_zip hf (by simp) (v := .arr (op.parameters.map Parameter.toValue)) (by simp))
  have hfr := readsBack_of_mem_zip hf (by simp) (v := .obj op.responses) (by simp)
  have hresponses : List.Forall₂ (fun kv ka => kv.1 = ka.1 ∧ Reads decoder.value kv.2 ka.2)
      op.responses op.responses :=
    List.forall₂_same.mpr fun kv hkv =>
      ⟨rfl, reads_decoder_value (hs.responses kv hkv) (readsBack_of_mem_obj hfr hkv)⟩
  have hkeys := hs.keys
  obtain ⟨description, summary, operationId, parameters, responses⟩ := op
  apply reads_record (by decide) (by simp)
  exact ⟨_, (reads_optText description).bind_pure _, _, (reads_optText summary).bind_pure _, _,
    (reads_optText operationId).bind_pure _, _, hparams.bind_pure _, _,
    (reads_keyedMap hresponses hkeys).bind_pure _, rfl⟩

/-- An operation object holding only its texts reads with no parameters and no
responses: the fields it lacks keep their defaults. -/
theorem reads_operation_texts (description summary operationId : Option String) :
    Reads decoder.operation
      (.obj [("description", optionalText description), ("summary", optionalText summary),
        ("operationId", optionalText operationId)])
      { description, summary, operationId, parameters := [], responses := [] } := by
  -- the object holds the first three fields of an operation, in order
  show Reads _ (.obj (["description", "summary", "operationId", "parameters", "responses"].zip
    [optionalText description, optionalText summary, optionalText operationId])) _
  apply reads_record (by decide) (by simp)
  exact ⟨_, (reads_optText description).bind_pure _, _, (reads_optText summary).bind_pure _, _,
    (reads_optText operationId).bind_pure _, rfl⟩

/-- **A path item reads back** from its data form: its parameters, then one
optional operation per method, in method order. -/
theorem reads_pathItem {item : PathItem} (hs : item.Storable) (hn : item.NullFree)
    (hf : ∀ x ∈ item.toValue.doubles, ReadsBack x) : Reads decoder.pathItem item.toValue item := by
  rw [PathItem.toValue_eq] at hf ⊢
  have hparams := reads_parameters hs.parameters hn.parameters
    (readsBack_of_mem_zip hf (by simp) List.mem_cons_self)
  -- the value written for a method is the one the method's field reads
  have hop (m : Method) : Reads (decoder.optional decoder.operation)
      (((item.operation m).map Operation.toValue).getD .null) (item.operation m) := by
    have hm : m ∈ Method.all := by cases m <;> decide
    have hfm := readsBack_of_mem_zip hf (by simp)
      (List.mem_cons_of_mem _ (List.mem_map_of_mem (f := fun m =>
        ((item.operation m).map Operation.toValue).getD .null) hm))
    refine reads_optional (fun op => by simp [Operation.toValue]) fun op hop => ?_
    exact reads_operation (hs.operations m op hop) (hn.operations m op hop) (by simpa [Option.mem_def.mp hop] using hfm)
  obtain ⟨parameters, get, put, post, delete, options, head, patch, trace⟩ := item
  apply reads_record (by decide) (by simp)
  exact ⟨_, hparams.bind_pure _, _, (hop .get).bind_pure _, _, (hop .put).bind_pure _, _,
    (hop .post).bind_pure _, _, (hop .delete).bind_pure _, _, (hop .options).bind_pure _, _,
    (hop .head).bind_pure _, _, (hop .patch).bind_pure _, _, (hop .trace).bind_pure _, rfl⟩

/-- **A schema reads back** from its data form, when the reader's fuel exceeds
its depth. -/
theorem reads_schema {s : Schema} (hs : s.Storable) (hn : s.NullFree)
    (hf : ∀ x ∈ s.toValue.doubles, ReadsBack x) {fuel : Nat} (hfuel : s.toValue.depth < fuel) :
    Reads (decoder.schema fuel) s.toValue s := by
  -- on the nesting of schemas: each property's schema is read with one less fuel
  induction hs generalizing fuel with
  | @mk properties enumValues keys nested enum ih =>
    obtain ⟨hnested, henum⟩ : (∀ kv ∈ properties, ∀ s ∈ kv.2, s.NullFree) ∧
        ∀ v ∈ enumValues, v ≠ .null := by
      cases hn with
      | mk hnested henum => exact ⟨hnested, henum⟩
    cases fuel with
    | zero => exact absurd hfuel (Nat.not_lt_zero _)
    | succ f =>
      rw [Schema.toValue_eq] at hf hfuel ⊢
      dsimp only at hf hfuel ⊢
      have hmem : Value.obj (propertiesToValue properties) ∈ Value.obj (propertiesToValue properties) ::
          if enumValues.isEmpty then [] else [.arr enumValues] := List.mem_cons_self
      have hfp := readsBack_of_mem_zip hf (by split <;> simp) hmem
      have hdp := depth_lt_of_mem_zip ["properties", "enum"] (by split <;> simp) hmem
      have hprops : Reads (decoder.keyedMap (decoder.optional (decoder.schema f)))
          (.obj (propertiesToValue properties)) properties := by
        refine reads_keyedMap ?_ keys
        rw [propertiesToValue_eq, List.forall₂_map_left_iff]
        refine List.forall₂_same.mpr fun kv hkv => ⟨rfl, reads_optional Schema.toValue_ne_null ?_⟩
        intro s hs
        have hsv := mem_propertiesToValue hkv hs
        have hds : s.toValue.depth < (Value.obj (propertiesToValue properties)).depth :=
          depth_lt_of_mem_obj hsv
        exact ih kv hkv s hs (hnested kv hkv s hs) (readsBack_of_mem_obj hfp hsv) (by omega)
      by_cases he : enumValues.isEmpty
      · -- no enum: the record has its properties only
        obtain rfl := List.isEmpty_iff.mp he
        simp only [he, ↓reduceIte]
        apply reads_record (by decide) (by simp)
        exact ⟨_, hprops.bind_pure _, rfl⟩
      · simp only [he] at hf ⊢
        have hfe := readsBack_of_mem_zip hf (by simp) (v := .arr enumValues) (by simp)
        have hvalues : Reads (decoder.nullableList decoder.value) (.arr enumValues) enumValues :=
          reads_nullableList (List.forall₂_same.mpr fun v hv =>
            ⟨henum v hv, reads_decoder_value (enum v hv) (readsBack_of_mem_arr hfe hv)⟩)
        apply reads_record (by decide) (by simp)
        exact ⟨_, hprops.bind_pure _, _, hvalues.bind_pure _, rfl⟩

/-- The component schemas read back, when they nest no deeper than schemas may. -/
theorem reads_components {cs : Components} (hk : (cs.schemas.map Prod.fst).Nodup)
    (hs : ∀ kv ∈ cs.schemas, kv.2.Storable) (hn : ∀ kv ∈ cs.schemas, kv.2.NullFree)
    (hf : ∀ x ∈ (Value.obj (cs.schemas.map fun kv => (kv.1, kv.2.toValue))).doubles, ReadsBack x)
    (hd : (Value.obj (cs.schemas.map fun kv => (kv.1, kv.2.toValue))).depth ≤ Decoder.schemaDepth) :
    Reads decoder.components
      (.obj (["schemas"].zip [.obj (cs.schemas.map fun kv => (kv.1, kv.2.toValue))])) cs := by
  have hschemas : Reads (decoder.nullableMap (decoder.schema Decoder.schemaDepth))
      (.obj (cs.schemas.map fun kv => (kv.1, kv.2.toValue))) cs.schemas := by
    refine reads_nullableMap_map Schema.toValue_ne_null hk fun kv hkv => ?_
    have hm := List.mem_map_of_mem (f := fun kv : String × Schema => (kv.1, kv.2.toValue)) hkv
    have hdk := depth_lt_of_mem_obj hm
    exact reads_schema (hs kv hkv) (hn kv hkv) (readsBack_of_mem_obj hf hm)
      (by dsimp only at hdk; omega)
  obtain ⟨schemas⟩ := cs
  apply reads_record (by decide) (by simp)
  exact ⟨_, hschemas.bind_pure _, rfl⟩

/-- The info object reads back. -/
theorem reads_info (i : Info) : Reads decoder.info i.toValue i := by
  rw [Info.toValue_eq]
  obtain ⟨title, version⟩ := i
  apply reads_record (by decide) (by simp)
  exact ⟨_, (reads_optText title).bind_pure _, _, (reads_lenient version).bind_pure _, rfl⟩

/-- **A document reads back** from its data form, when that nests less deep
than the JSON reader allows. -/
theorem reads_document {d : Document} (hs : d.Storable) (hn : d.NullFree)
    (hf : ∀ x ∈ d.toValue.doubles, ReadsBack x) (hd : d.toValue.depth < depthLimit) :
    Reads decoder.document d.toValue d := by
  rw [Document.toValue_eq] at hf hd ⊢
  have hfp := readsBack_of_mem_zip hf (by simp)
    (v := .obj (d.paths.map fun kv => (kv.1, kv.2.toValue))) (by simp)
  have hpaths : Reads (decoder.nullableMap decoder.pathItem)
      (.obj (d.paths.map fun kv => (kv.1, kv.2.toValue))) d.paths :=
    reads_nullableMap_map (fun _ => by simp [PathItem.toValue]) hs.pathKeys fun kv hkv =>
      reads_pathItem (hs.paths kv hkv) (hn.paths kv hkv)
        (readsBack_of_mem_obj hfp (List.mem_map_of_mem hkv))
  -- the schemas sit two objects below the document, well within the schema depth
  have hcv : Value.obj (["schemas"].zip [.obj (d.schemas.map fun kv => (kv.1, kv.2.toValue))]) ∈
      [optionalText d.openapi, (d.info.map Info.toValue).getD .null,
        .obj (d.paths.map fun kv => (kv.1, kv.2.toValue)),
        .obj (["schemas"].zip [.obj (d.schemas.map fun kv => (kv.1, kv.2.toValue))])] := by
    simp
  have hsv := List.mem_singleton_self (Value.obj (d.schemas.map fun kv => (kv.1, kv.2.toValue)))
  have hdc := depth_lt_of_mem_zip ["openapi", "info", "paths", "components"] (by simp) hcv
  have hds := depth_lt_of_mem_zip ["schemas"] (by simp) hsv
  have hcomponents := reads_components hs.schemaKeys hs.schemas hn.schemas
    (readsBack_of_mem_zip (readsBack_of_mem_zip hf (by simp) hcv) (by simp) hsv)
    (by simp only [Document.schemas, depthLimit, Decoder.schemaDepth] at hd hdc hds ⊢; omega)
  obtain ⟨openapi, info, paths, components⟩ := d
  apply reads_record (by decide) (by simp)
  exact ⟨_, (reads_lenient openapi).bind_pure _, _,
    (reads_optional (fun i => by simp [Info.toValue]) fun i _ => reads_info i).bind_pure _, _,
    hpaths.bind_pure _, _, (reads_optional_some (by simp) hcomponents).bind_pure _, rfl⟩

/-- **A document's compact text reads back** as a whole JSON text. -/
theorem readDocument_compact {d : Document} (hs : d.Storable) (hn : d.NullFree)
    (hf : ∀ x ∈ d.toValue.doubles, ReadsBack x) (hd : d.toValue.depth < depthLimit) :
    readDocument d.toValue.compact = .ok d := by
  have hB : ahead d.toValue.compact.toUTF8 ⟨0, depthLimit⟩ = d.toValue.bytes ++ [] := by
    simp [ahead, String.toUTF8_eq_toByteArray, Text.toList_data_toByteArray, Value.bytes_compact]
  have hend : ahead d.toValue.compact.toUTF8 ((⟨0, depthLimit⟩ : Cursor).skip d.toValue.bytes.length)
      = [] := by
    rw [ahead_skip, hB, List.append_nil, List.drop_length]
  have hread := reads_document hs hn hf hd _ _ [] hB (by simp [Closes]) hd
  show (runAt _ _ _).1 = _
  rw [runAt_bind, hread]
  dsimp only
  rw [runAt_bind, runAt_parseWhitespace_nil hend]
  rfl

end Json

end OpenApiLint
