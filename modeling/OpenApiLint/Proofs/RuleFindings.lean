import Mathlib
import OpenApiLint.Proofs.Naming
import OpenApiLint.Lint.Validator
import OpenApiLint.Yaml.Decoder
import OpenApiLint.Proofs.MapRead
/-!
# What each rule reports

The rules that walk a document's paths and schemas, each stated as the exact
list it returns: which places it visits and in what order, which test decides
a finding there, and the violation it writes.  The walk over operations is
stated through the eight method slots of a path item, each method paired with
its own field, so a slot read for the wrong method, a method out of order, or a
path-level parameter reported again for each operation contradicts a statement
here.  The tests are the languages of `Proofs.Naming`.

## Main definitions

* `PathItem.slots` — the method slots of a path item, in method order.
* `Document.parameterSites` — every declared parameter with where it is declared.
* `enumMemberFindings` — the findings among the members of one enum.

## Main statements

* `operations_slots_and_description` — the declared operations in order, how
  many a report counts, and the ones without a description.
* `checkPropertyNameCase_eq_properties` — component property names outside lowerCamelCase.
* `checkNoGenericIdParameter_eq_sites` — path and query parameters named a bare `id`.
* `checkEnumUpperSnakeCase_eq_members` — string enum members outside UPPER_SNAKE_CASE.
* `checkPostCreatedResponse_eq_posts` — POST operations without responses or
  without a `201`, which YAML keys read as `201`, and which responses read as none.
-/

namespace OpenApiLint

/-- Flattening the results of a partial map: each element's result, if any. -/
theorem flatMap_filterMap {α β γ : Type} (f : α → Option β) (g : β → List γ) (l : List α) :
    (l.filterMap f).flatMap g = l.flatMap fun a => (f a).toList.flatMap g := by
  induction l with
  | nil => rfl
  | cons a l ih => cases h : f a <;> simp [h, ih]

/-! ## Method slots -/

namespace PathItem

/-- The eight operation slots of a path item, each method with the field that
holds its operation, in the order `GET, PUT, POST, DELETE, OPTIONS, HEAD,
PATCH, TRACE`. -/
def slots (item : PathItem) : List (Method × Option Operation) :=
  [(.get, item.get), (.put, item.put), (.post, item.post), (.delete, item.delete),
    (.options, item.options), (.head, item.head), (.patch, item.patch), (.trace, item.trace)]

/-- The declared operations of an item are its filled slots, in slot order. -/
theorem operations_eq_slots (item : PathItem) :
    item.operations = item.slots.filterMap fun s => s.2.map (s.1, ·) := rfl

end PathItem

theorem Location.operation_eq (m : Method) (path : String) :
    Location.operation m path = m.label ++ " " ++ path := rfl

/-! ## Operations and their descriptions -/

theorem Operation.hasDescription_eq (op : Operation) :
    op.hasDescription =
      !op.description.all fun t => t.toList.all fun c => decide (c.toNat ∈ Text.javaWhitespace) := by
  have hblank (t : String) :
      Text.isBlank t.toList = t.toList.all fun c => decide (c.toNat ∈ Text.javaWhitespace) := by
    rw [Bool.eq_iff_iff, Text.isBlank_iff, List.all_eq_true]
    simp
  cases h : op.description with
  | none => simp [Operation.hasDescription, h]
  | some t => simp [Operation.hasDescription, h, hblank]

theorem Document.operations_eq_slots (d : Document) :
    d.operations = d.paths.flatMap fun e => e.2.slots.filterMap fun s => s.2.map ((e.1, s.1, ·)) := by
  unfold Document.operations
  refine List.flatMap_congr fun e _ => ?_
  obtain ⟨path, item⟩ := e
  simp [PathItem.operations_eq_slots, List.map_filterMap, Option.map_map, Function.comp_def]

/-- **The operations of a document, and the ones without a description.**
Operations come path by path in document order and, within a path, slot by
slot in method order, each method with the operation of its own field; a
report counts exactly these; and `operation-description` reports, at
`<METHOD> <path>`, those whose description is absent or made only of Java
white space. -/
theorem operations_slots_and_description (d : Document) :
    d.operations = d.paths.flatMap (fun e => e.2.slots.filterMap fun s => s.2.map ((e.1, s.1, ·))) ∧
    (∀ v : Validator, (v.report d).operationsChecked =
      (d.paths.map fun e => e.2.slots.countP fun s => s.2.isSome).sum) ∧
    Rules.checkOperationDescription d = d.operations.filterMap fun o =>
      if o.2.2.description.all (fun t => t.toList.all fun c => decide (c.toNat ∈ Text.javaWhitespace))
      then some { code := .missingOperationDescription, location := o.2.1.label ++ " " ++ o.1,
                  message := "Operation must have a non-blank description" }
      else none := by
  refine ⟨d.operations_eq_slots, fun v => ?_, ?_⟩
  · show d.operations.length = _
    rw [d.operations_eq_slots, List.length_flatMap]
    simp [List.length_filterMap_eq_countP]
  · unfold Rules.checkOperationDescription
    refine List.filterMap_congr fun o _ => ?_
    obtain ⟨path, m, op⟩ := o
    dsimp only
    rw [Operation.hasDescription_eq]
    cases op.description.all _ <;> simp [Rules.missingDescription, Location.operation_eq]

/-! ## Property names -/

theorem Location.property_eq (name prop : String) :
    Location.property name prop = "schema " ++ name ++ ".properties." ++ prop := rfl

/-- **Property names outside lowerCamelCase.**  Per component schema in
declaration order, `property-name-case` reports each of its own property
names that is not in `[a-z][A-Za-z0-9]*`, once, in declaration order, at
`schema <S>.properties.<P>`; a property whose schema is null is reported like
any other, and the properties of nested schemas are not read. -/
theorem checkPropertyNameCase_eq_properties (d : Document) :
    Rules.checkPropertyNameCase d = d.schemas.flatMap fun e => e.2.properties.filterMap fun p =>
      if Text.LowerCamel p.1.toList then none
      else some { code := .invalidPropertyNameCase,
                  location := "schema " ++ e.1 ++ ".properties." ++ p.1,
                  message := "Property name must be lowerCamelCase" } := by
  unfold Rules.checkPropertyNameCase
  refine List.flatMap_congr fun e _ => List.filterMap_congr fun p _ => ?_
  obtain ⟨prop, _⟩ := p
  by_cases h : Text.LowerCamel prop.toList
  · simp [(Text.isLowerCamelCase_iff _).2 h, h]
  · have h' : Text.isLowerCamelCase prop.toList = false :=
      Bool.eq_false_iff.2 fun hc => h ((Text.isLowerCamelCase_iff _).1 hc)
    simp [h', h, Location.property_eq]

/-! ## Parameters named `id` -/

/-- Every declared parameter with where it is declared: path by path in
document order, first the path item's own parameters, then the parameters of
each declared operation in method order, each under its method. -/
def Document.parameterSites (d : Document) : List (String × Option Method × Parameter) :=
  d.paths.flatMap fun e =>
    e.2.parameters.map (fun p => (e.1, none, p)) ++
      e.2.slots.flatMap fun s => s.2.toList.flatMap fun op => op.parameters.map fun p => (e.1, some s.1, p)

/-- The finding of `no-generic-id-parameter` at one declared parameter: when it
has both a name and an `in`, the `in` is exactly `path` or `query`, and the name
is a bare `id`; located by the method (for an operation's parameter), the
path, the untrimmed name and the `in`. -/
def genericIdFinding (site : String × Option Method × Parameter) : Option Violation := do
  let name ← site.2.2.name
  let location ← site.2.2.location
  if (location = "path" ∨ location = "query") ∧ Text.IsBareId name.toList then
    some { code := .genericIdParameterName,
           location := (site.2.1.map (·.label ++ " ")).getD "" ++ site.1 ++ " param '" ++ name ++
             "' in " ++ location,
           message := "Path and query parameters representing identifiers must be specific, e.g. userId or resourceId instead of just 'id'" }
  else none

theorem Rules.isGenericId_iff (name location : String) :
    Rules.isGenericId name location = true ↔
      (location = "path" ∨ location = "query") ∧ Text.IsBareId name.toList := by
  simp [Rules.isGenericId, Text.toLower_trim_eq_id_iff]

theorem Location.parameter_eq (m : Option Method) (path name location : String) :
    Location.parameter m path name location =
      (m.map (·.label ++ " ")).getD "" ++ path ++ " param '" ++ name ++ "' in " ++ location := by
  cases m <;> simp [Location.parameter, String.append_assoc] <;> rfl

/-- The parameters of one place are reported as their sites are. -/
theorem Rules.checkParameters_eq (path : String) (m : Option Method) (ps : List Parameter) :
    Rules.checkParameters path m ps = (ps.map fun p => (path, m, p)).filterMap genericIdFinding := by
  rw [Rules.checkParameters, List.filterMap_map]
  refine List.filterMap_congr fun p _ => ?_
  obtain ⟨_ | name, _ | location, schema⟩ := p
  · rfl
  · rfl
  · rfl
  · by_cases h : (location = "path" ∨ location = "query") ∧ Text.IsBareId name.toList
    · have h' := (Rules.isGenericId_iff name location).2 h
      simp [genericIdFinding, h, h', Location.parameter_eq]
    · have h' : Rules.isGenericId name location = false :=
        Bool.eq_false_iff.2 fun hc => h ((Rules.isGenericId_iff name location).1 hc)
      simp [genericIdFinding, h, h']

/-- **Bare `id` parameters.**  `no-generic-id-parameter` reports, site by site
in the order of `Document.parameterSites`, exactly the path and query
parameters whose name is `id` in some letter case with only white space
around it, once each. -/
theorem checkNoGenericIdParameter_eq_sites (d : Document) :
    Rules.checkNoGenericIdParameter d = d.parameterSites.filterMap genericIdFinding := by
  rw [Document.parameterSites, List.filterMap_flatMap]
  refine List.flatMap_congr fun e _ => ?_
  obtain ⟨path, item⟩ := e
  dsimp only
  rw [List.filterMap_append, Rules.checkParameters_eq, PathItem.operations_eq_slots,
    List.filterMap_flatMap, flatMap_filterMap]
  congr 1
  refine List.flatMap_congr fun s _ => ?_
  obtain ⟨m, _ | op⟩ := s
  · rfl
  · simp [Rules.checkParameters_eq]

example : genericIdFinding ("/u", none, { name := some "id", location := some "Query" }) = none ∧
    genericIdFinding ("/u", none, { name := some "id", location := some "header" }) = none ∧
    genericIdFinding ("/u", some .get, { name := some "\u0131d", location := some "path" }) = none ∧
    (genericIdFinding ("/u", some .get, { name := some " Id", location := some "query" })).map
      (·.location) = some "GET /u param ' Id' in query" := by
  decide

/-! ## Enum members -/

/-- The findings of `enum-upper-snake-case` among the members of a schema's
enum, all at one location: one per string member outside UPPER_SNAKE_CASE, in
list order, a repeated member once per occurrence.  Members that are not
strings are passed over. -/
def enumMemberFindings (location : String) (s : Schema) : List Violation :=
  s.enumValues.filterMap fun v => match v with
    | .str t =>
      if Text.UpperSnake t.toList then none
      else some { code := .enumNotUpperSnakeCase, location,
                  message := "Enum value '" ++ t ++ "' must use UPPER_SNAKE_CASE" }
    | _ => none

theorem Rules.checkEnum_eq (s : Schema) (location : String) :
    Rules.checkEnum s location = enumMemberFindings location s := by
  rw [Rules.checkEnum, Schema.stringEnumValues, List.filterMap_filterMap, enumMemberFindings]
  refine List.filterMap_congr fun v _ => ?_
  cases v with
  | str t =>
    by_cases h : Text.UpperSnake t.toList
    · simp [Value.asString?, (Text.isUpperSnakeCase_iff _).2 h, h]
    · have h' : Text.isUpperSnakeCase t.toList = false :=
        Bool.eq_false_iff.2 fun hc => h ((Text.isUpperSnakeCase_iff _).1 hc)
      simp [Value.asString?, h', h]
      rfl
  | _ => rfl

/-- **Enum members outside UPPER_SNAKE_CASE.**  Per component schema in
declaration order, `enum-upper-snake-case` reports the offending members of
the schema's own enum at `schema <S>`, then, property by property, those of
each property schema that is not null at `schema <S>.properties.<P>`; enums
nested deeper are not read. -/
theorem checkEnumUpperSnakeCase_eq_members (d : Document) :
    Rules.checkEnumUpperSnakeCase d = d.schemas.flatMap fun e =>
      enumMemberFindings ("schema " ++ e.1) e.2 ++
        e.2.properties.flatMap fun p =>
          p.2.toList.flatMap (enumMemberFindings ("schema " ++ e.1 ++ ".properties." ++ p.1)) := by
  unfold Rules.checkEnumUpperSnakeCase
  refine List.flatMap_congr fun e _ => ?_
  obtain ⟨name, s⟩ := e
  dsimp only
  rw [Rules.checkEnum_eq]
  -- the schema's own location is the same text; the properties remain
  congr 1
  refine List.flatMap_congr fun p _ => ?_
  obtain ⟨prop, _ | ps⟩ := p
  · rfl
  · exact (Rules.checkEnum_eq ps _).trans (List.flatMap_singleton _ _).symm

/-! ## POST responses -/

theorem Rules.checkPost_eq (path : String) (op : Operation) :
    Rules.checkPost path op =
      if op.responses = [] then
        some { code := .postMissingResponses, location := "POST " ++ path,
               message := "POST operation must define a 201 Created response" }
      else if "201" ∈ op.responses.map Prod.fst then none
      else some { code := .postShouldReturn201, location := "POST " ++ path,
                  message := "POST endpoints must return 201 Created instead of 200 OK" } := by
  have hany : op.responses.any (·.1 == "201") = true ↔ "201" ∈ op.responses.map Prod.fst := by
    simp only [List.any_eq_true, beq_iff_eq, List.mem_map]
  by_cases he : op.responses = []
  · simp [Rules.checkPost, he, Location.operation_eq, Method.label]
  · by_cases h201 : "201" ∈ op.responses.map Prod.fst
    · simp [Rules.checkPost, he, h201, hany.2 h201]
    · have h' : op.responses.any (·.1 == "201") = false :=
        Bool.eq_false_iff.2 fun hc => h201 (hany.1 hc)
      simp [Rules.checkPost, he, h201, h', Location.operation_eq, Method.label]

/-- An integer key reads as `201` exactly when it is 201. -/
theorem Yaml.Scalar.normalized_unsigned_eq_iff (n : Nat) :
    (Yaml.Scalar.unsigned n).normalized = some (some "201") ↔ n = 201 := by
  simp only [Yaml.Scalar.normalized, Option.some.injEq]
  exact (show "201" = Nat.repr 201 from rfl) ▸ Nat.repr_inj

theorem Yaml.Scalar.normalized_signed_eq_iff (n : Int) :
    (Yaml.Scalar.signed n).normalized = some (some "201") ↔ n = 201 := by
  simp only [Yaml.Scalar.normalized, Option.some.injEq]
  exact (show "201" = Int.repr 201 from rfl) ▸ Int.repr_inj

/-- **POST operations without a `201`.**  Per path in declaration order,
`post-created-response` reports the path's POST operation, and no other, at
`POST <path>`: missing responses when it declares none, else a missing `201`
when no response key is `201`, else nothing; the value a key holds, null
included, plays no part.  A YAML key reads as `201` when it is the integer 201
(`201`, `+201`, `0xC9`) or the double 201 (`201.0`), and a text key is kept as
written, so `" 201"`, `"2XX"` and `"default"` are not `201`.  An operation
declares no responses when they are absent, null, `{}`, or a mapping whose
keys are all null: each of these is read as an empty map. -/
theorem checkPostCreatedResponse_eq_posts (d : Document) :
    Rules.checkPostCreatedResponse d = d.paths.filterMap (fun e => e.2.post.bind fun op =>
      if op.responses = [] then
        some { code := .postMissingResponses, location := "POST " ++ e.1,
               message := "POST operation must define a 201 Created response" }
      else if "201" ∈ op.responses.map Prod.fst then none
      else some { code := .postShouldReturn201, location := "POST " ++ e.1,
                  message := "POST endpoints must return 201 Created instead of 200 OK" }) ∧
    (∀ n : Nat, (Yaml.Scalar.unsigned n).normalized = some (some "201") ↔ n = 201) ∧
    (∀ n : Int, (Yaml.Scalar.signed n).normalized = some (some "201") ↔ n = 201) ∧
    (Yaml.Scalar.float (Number.Binary64.ofNat 201)).normalized = some (some "201") ∧
    (∀ t, (Yaml.Scalar.text t).normalized = some (some t)) ∧
    (∀ description summary operationId : Option String,
      Json.Reads Json.decoder.operation
        (.obj [("description", optionalText description), ("summary", optionalText summary),
          ("operationId", optionalText operationId)])
        { description, summary, operationId, parameters := [], responses := [] }) ∧
    Json.Reads (Json.decoder.keyedMap Json.decoder.value) .null [] ∧
    Json.Reads (Json.decoder.keyedMap Json.decoder.value) (.obj []) [] ∧
    (∀ (doc : Yaml.Loaded) (depth : Nat) (c : Yaml.Cursor) (ev : Yaml.Node) (m : Yaml.Mark),
      doc.events[c.pos]? = some (ev, m) → Yaml.NullNode ev →
      Yaml.Runs (Yaml.decoder.keyedMap Yaml.decoder.value) doc depth c [] { c with pos := c.pos + 1 }) ∧
    (∀ (doc : Yaml.Loaded) (depth : Nat) (c c' : Yaml.Cursor) (tag : Option (List UInt8))
      (m m' : Yaml.Mark) (kvs : List (Option String × Value)),
      doc.events[c.pos]? = some (.mappingStart tag, m) →
      Yaml.Entries Yaml.decoder.value doc depth { c with pos := c.pos + 1 } kvs c' →
      doc.events[c'.pos]? = some (.mappingEnd, m') → (∀ e ∈ kvs, e.1 = none) →
      Yaml.Runs (Yaml.decoder.keyedMap Yaml.decoder.value) doc (depth + 1) c []
        { c' with pos := c'.pos + 1 }) := by
  refine ⟨?_, Yaml.Scalar.normalized_unsigned_eq_iff, Yaml.Scalar.normalized_signed_eq_iff,
    by decide, fun t => rfl, Json.reads_operation_texts, Json.reads_keyedMap_null,
    Json.reads_keyedMap_obj .nil, fun doc depth c ev m h hn => Yaml.Runs.keyedMap_null h hn,
    fun doc depth c c' tag m m' kvs hs h he hnull => Yaml.Runs.keyedMap_nullKeys hs h he hnull⟩
  unfold Rules.checkPostCreatedResponse
  refine List.filterMap_congr fun e _ => ?_
  obtain ⟨path, item⟩ := e
  simp only [Rules.checkPost_eq]

example : Yaml.resolvePlain "+201" = .unsigned 201 ∧ Yaml.resolvePlain "0xC9" = .unsigned 201 ∧
    Yaml.resolvePlain "201.0" = .float (Number.Binary64.ofNat 201) ∧
    Yaml.resolvePlain "2XX" = .text "2XX" := ⟨rfl, rfl, rfl, rfl⟩

end OpenApiLint
