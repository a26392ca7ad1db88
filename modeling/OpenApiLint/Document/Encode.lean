import OpenApiLint.Document.Basic
/-!
# Documents as data

The data form of a document, field for field.  Every field is written, null
when absent, except two: a parameter's `schema` only when it has one, and a
schema's `enum` only when it has members.

## Main definitions

* `Document.toValue`.
-/

namespace OpenApiLint

/-- Text that may be absent, as data. -/
def optionalText : Option String → Value
  | some s => .str s
  | none => .null

/-- A parameter as data. -/
def Parameter.toValue (p : Parameter) : Value :=
  .obj ([("name", optionalText p.name), ("in", optionalText p.location)] ++
    match p.schema with
    | some v => [("schema", v)]
    | none => [])

/-- An operation as data. -/
def Operation.toValue (op : Operation) : Value :=
  .obj [("description", optionalText op.description), ("summary", optionalText op.summary),
    ("operationId", optionalText op.operationId),
    ("parameters", .arr (op.parameters.map Parameter.toValue)),
    ("responses", .obj op.responses)]

/-- A path item as data: its parameters, then every method, null when absent. -/
def PathItem.toValue (item : PathItem) : Value :=
  .obj (("parameters", .arr (item.parameters.map Parameter.toValue)) ::
    Method.all.map fun m => (m.fieldName, ((item.operation m).map Operation.toValue).getD .null))

mutual

/-- A schema as data. -/
def Schema.toValue : Schema → Value
  | ⟨properties, enumValues⟩ =>
    .obj (("properties", .obj (propertiesToValue properties)) ::
      if enumValues.isEmpty then [] else [("enum", .arr enumValues)])

/-- Named properties as data entries, a missing schema as null. -/
def propertiesToValue : List (String × Option Schema) → List (String × Value)
  | [] => []
  | (k, none) :: rest => (k, .null) :: propertiesToValue rest
  | (k, some s) :: rest => (k, s.toValue) :: propertiesToValue rest

end

/-- The info object as data. -/
def Info.toValue (i : Info) : Value :=
  .obj [("title", optionalText i.title), ("version", optionalText i.version)]

/-- A document as data. -/
def Document.toValue (d : Document) : Value :=
  .obj [("openapi", optionalText d.openapi),
    ("info", (d.info.map Info.toValue).getD .null),
    ("paths", .obj (d.paths.map fun (k, item) => (k, item.toValue))),
    ("components", .obj [("schemas", .obj (d.schemas.map fun (k, s) => (k, s.toValue)))])]

end OpenApiLint
