import OpenApiLint.Value
import OpenApiLint.Text.Naming
/-!
# The document model

What the linter reads from an OpenAPI document, and nothing more: the
version, the info title and version, the path items with their parameters and
operations, and the component schemas with their properties and enum values.
Every field is optional; maps keep the order of the document.

## Main definitions

* `Method` — the eight operation methods, in the order `GET, PUT, POST, DELETE,
  OPTIONS, HEAD, PATCH, TRACE`.
* `Document.operations` — every declared operation with its path and method,
  in path order and then method order.
-/

namespace OpenApiLint

/-- An operation method of a path item. -/
inductive Method where
  | get | put | post | delete | options | head | patch | trace
  deriving DecidableEq, Inhabited

namespace Method

/-- The methods in their canonical order. -/
def all : List Method := [.get, .put, .post, .delete, .options, .head, .patch, .trace]

/-- The upper-case name of a method. -/
def label : Method → String
  | .get => "GET" | .put => "PUT" | .post => "POST" | .delete => "DELETE"
  | .options => "OPTIONS" | .head => "HEAD" | .patch => "PATCH" | .trace => "TRACE"

/-- The method with the given upper-case name. -/
def ofLabel? (s : String) : Option Method := all.find? (·.label == s)

/-- The field name of a method in a path item. -/
def fieldName : Method → String
  | .get => "get" | .put => "put" | .post => "post" | .delete => "delete"
  | .options => "options" | .head => "head" | .patch => "patch" | .trace => "trace"

end Method

/-- Where a parameter is carried. -/
inductive ParameterLocation where
  | path | query | header | cookie
  deriving DecidableEq, Inhabited

namespace ParameterLocation

/-- The location named by an exact lower-case `in` value. -/
def parse? : String → Option ParameterLocation
  | "path" => some .path
  | "query" => some .query
  | "header" => some .header
  | "cookie" => some .cookie
  | _ => none

/-- The capitalised name of a location. -/
def label : ParameterLocation → String
  | .path => "Path" | .query => "Query" | .header => "Header" | .cookie => "Cookie"

end ParameterLocation

/-- The document's `info` object. -/
structure Info where
  title : Option String := none
  version : Option String := none
  deriving DecidableEq, Inhabited

/-- A parameter: its name, where it is carried (`in`), and its schema if any. -/
structure Parameter where
  name : Option String := none
  location : Option String := none
  schema : Option Value := none
  deriving DecidableEq, Inhabited

/-- An operation of a path item. -/
structure Operation where
  description : Option String := none
  summary : Option String := none
  operationId : Option String := none
  parameters : List Parameter := []
  responses : List (String × Value) := []
  deriving DecidableEq, Inhabited

/-- A path item: parameters shared by its operations, and one optional
operation per method. -/
structure PathItem where
  parameters : List Parameter := []
  get : Option Operation := none
  put : Option Operation := none
  post : Option Operation := none
  delete : Option Operation := none
  options : Option Operation := none
  head : Option Operation := none
  patch : Option Operation := none
  trace : Option Operation := none
  deriving DecidableEq, Inhabited

/-- A schema: named properties, each a schema or null, and enum values. -/
structure Schema where
  properties : List (String × Option Schema) := []
  enumValues : List Value := []
  deriving Inhabited

mutual
/-- Whether two schemas are the same: equality decided through the nested
list of properties, which the deriving handler does not reach. -/
def Schema.beq : Schema → Schema → Bool
  | ⟨ps, es⟩, ⟨qs, fs⟩ => Schema.beqProperties ps qs && es == fs

/-- Whether two lists of named properties are the same. -/
def Schema.beqProperties : List (String × Option Schema) → List (String × Option Schema) → Bool
  | [], [] => true
  | (k, none) :: ps, (l, none) :: qs => k == l && Schema.beqProperties ps qs
  | (k, some s) :: ps, (l, some t) :: qs => k == l && Schema.beq s t && Schema.beqProperties ps qs
  | _, _ => false
end

mutual
theorem Schema.beq_iff_eq : ∀ s t : Schema, Schema.beq s t = true ↔ s = t
  | ⟨ps, es⟩, ⟨qs, fs⟩ => by
    simp [Schema.beq, Schema.beqProperties_iff_eq ps qs]

theorem Schema.beqProperties_iff_eq :
    ∀ ps qs : List (String × Option Schema), Schema.beqProperties ps qs = true ↔ ps = qs
  | [], qs => by cases qs <;> simp [Schema.beqProperties]
  | (k, none) :: ps, qs => by
    rcases qs with _ | ⟨⟨l, _ | t⟩, qs⟩ <;>
      simp [Schema.beqProperties, Schema.beqProperties_iff_eq ps]
  | (k, some s) :: ps, qs => by
    rcases qs with _ | ⟨⟨l, _ | t⟩, qs⟩ <;>
      simp [Schema.beqProperties, Schema.beq_iff_eq s, Schema.beqProperties_iff_eq ps, and_assoc]
end

instance : DecidableEq Schema := fun s t => decidable_of_iff _ (Schema.beq_iff_eq s t)

/-- The document's `components` object. -/
structure Components where
  schemas : List (String × Schema) := []
  deriving DecidableEq, Inhabited

/-- An OpenAPI document as the linter sees it. -/
structure Document where
  openapi : Option String := none
  info : Option Info := none
  paths : List (String × PathItem) := []
  components : Components := {}
  deriving DecidableEq, Inhabited

namespace PathItem

/-- The operation stored for a method. -/
def operation (item : PathItem) : Method → Option Operation
  | .get => item.get | .put => item.put | .post => item.post | .delete => item.delete
  | .options => item.options | .head => item.head | .patch => item.patch
  | .trace => item.trace

/-- The item with the operation of one method replaced. -/
def setOperation (item : PathItem) (m : Method) (op : Option Operation) : PathItem :=
  match m with
  | .get => { item with get := op } | .put => { item with put := op }
  | .post => { item with post := op } | .delete => { item with delete := op }
  | .options => { item with options := op } | .head => { item with head := op }
  | .patch => { item with patch := op } | .trace => { item with trace := op }

/-- The declared operations of an item, in method order. -/
def operations (item : PathItem) : List (Method × Operation) :=
  Method.all.filterMap fun m => (item.operation m).map (m, ·)

end PathItem

/-- An operation has a description when one is present and not blank. -/
def Operation.hasDescription (op : Operation) : Bool :=
  match op.description with
  | some d => !Text.isBlank d.toList
  | none => false

/-- The string members of a schema's enum, in order. -/
def Schema.stringEnumValues (s : Schema) : List String := s.enumValues.filterMap Value.asString?

namespace Document

/-- Every declared operation with its path and method: paths in document
order, and within a path the methods in canonical order. -/
def operations (d : Document) : List (String × Method × Operation) :=
  d.paths.flatMap fun (path, item) => item.operations.map fun (m, op) => (path, m, op)

/-- The component schemas. -/
def schemas (d : Document) : List (String × Schema) := d.components.schemas

end Document

end OpenApiLint
