import OpenApiLint.Lint.Violation
import OpenApiLint.Lint.Location
/-!
# Rules and the five built-in rules

A rule has a name, the codes it may report, a description, a default
severity, and a check that lists its violations of a document.  The check
reports at the default severity `error`; the validator sets the severity that
applies.

## The built-in rules

* `operation-description` — every operation has a non-blank description.
* `property-name-case` — component schema property names are lowerCamelCase.
* `post-created-response` — a POST operation declares a `201` response.
* `no-generic-id-parameter` — a path or query parameter is not named bare `id`.
* `enum-upper-snake-case` — string enum values are UPPER_SNAKE_CASE.
-/

namespace OpenApiLint

/-- A lint rule. -/
structure Rule where
  name : String
  codes : List Code
  description : String := ""
  defaultSeverity : Severity := .error
  check : Document → List Violation

namespace Rule

/-- A selector picks a rule by its name or by one of its codes, exactly. -/
def picks (r : Rule) (selector : String) : Bool :=
  r.name == selector || r.codes.any (·.label == selector)

end Rule

namespace Rules

/-! ## operation-description -/

/-- The violation for an operation without a description. -/
def missingDescription (path : String) (m : Method) : Violation :=
  { code := .missingOperationDescription, location := Location.operation m path,
    message := "Operation must have a non-blank description" }

/-- One violation per operation whose description is missing or blank. -/
def checkOperationDescription (d : Document) : List Violation :=
  d.operations.filterMap fun (path, m, op) =>
    if op.hasDescription then none else some (missingDescription path m)

/-- Every operation must have a non-blank description. -/
def operationDescription : Rule where
  name := "operation-description"
  codes := [.missingOperationDescription]
  description := "Every operation must have a non-blank description"
  check := checkOperationDescription

/-! ## property-name-case -/

/-- One violation per property name, of each component schema, that is not
lowerCamelCase. -/
def checkPropertyNameCase (d : Document) : List Violation :=
  d.schemas.flatMap fun (name, s) =>
    s.properties.filterMap fun (prop, _) =>
      if Text.isLowerCamelCase prop.toList then none
      else some { code := .invalidPropertyNameCase, location := Location.property name prop,
                  message := "Property name must be lowerCamelCase" }

/-- Component schema property names must be lowerCamelCase. -/
def propertyNameCase : Rule where
  name := "property-name-case"
  codes := [.invalidPropertyNameCase]
  description := "Component schema property names must be lowerCamelCase"
  check := checkPropertyNameCase

/-! ## post-created-response -/

/-- The finding for one POST operation: none when it declares `201`. -/
def checkPost (path : String) (op : Operation) : Option Violation :=
  let location := Location.operation .post path
  if op.responses.isEmpty then
    some { code := .postMissingResponses, location,
           message := "POST operation must define a 201 Created response" }
  else if op.responses.any (·.1 == "201") then none
  else
    some { code := .postShouldReturn201, location,
           message := "POST endpoints must return 201 Created instead of 200 OK" }

/-- At most one violation per path with a POST operation. -/
def checkPostCreatedResponse (d : Document) : List Violation :=
  d.paths.filterMap fun (path, item) => item.post.bind (checkPost path)

/-- POST operations must declare a 201 Created response. -/
def postCreatedResponse : Rule where
  name := "post-created-response"
  codes := [.postMissingResponses, .postShouldReturn201]
  description := "POST operations must declare a 201 Created response"
  check := checkPostCreatedResponse

/-! ## no-generic-id-parameter -/

/-- A parameter is a generic identifier when it is carried in the path or the
query and its name, trimmed of white space, is `id` in any ASCII case. -/
def isGenericId (name location : String) : Bool :=
  (location == "path" || location == "query") &&
    (String.ofList (Text.trim name.toList)).toLower == "id"

/-- The violations among a list of parameters; parameters without a name or
an `in` are skipped, and the location shows the name untrimmed. -/
def checkParameters (path : String) (m : Option Method) (ps : List Parameter) :
    List Violation :=
  ps.filterMap fun p =>
    match p.name, p.location with
    | some name, some location =>
      if isGenericId name location then
        some { code := .genericIdParameterName,
               location := Location.parameter m path name location,
               message := "Path and query parameters representing identifiers must be specific, e.g. userId or resourceId instead of just 'id'" }
      else none
    | _, _ => none

/-- Per path, the path item's parameters first, then each operation's in
method order. -/
def checkNoGenericIdParameter (d : Document) : List Violation :=
  d.paths.flatMap fun (path, item) =>
    checkParameters path none item.parameters ++
      item.operations.flatMap fun (m, op) => checkParameters path (some m) op.parameters

/-- Path and query identifier parameters must be qualified. -/
def noGenericIdParameter : Rule where
  name := "no-generic-id-parameter"
  codes := [.genericIdParameterName]
  description := "Path and query identifier parameters must be qualified (userId, not id)"
  check := checkNoGenericIdParameter

/-! ## enum-upper-snake-case -/

/-- One violation per string enum member of a schema that is not
UPPER_SNAKE_CASE, all at the given location. -/
def checkEnum (s : Schema) (location : String) : List Violation :=
  s.stringEnumValues.filterMap fun v =>
    if Text.isUpperSnakeCase v.toList then none
    else some { code := .enumNotUpperSnakeCase, location,
                message := s!"Enum value '{v}' must use UPPER_SNAKE_CASE" }

/-- Per component schema: its own enum, then the enum of each non-null property. -/
def checkEnumUpperSnakeCase (d : Document) : List Violation :=
  d.schemas.flatMap fun (name, s) =>
    checkEnum s (Location.schema name) ++
      s.properties.flatMap fun (prop, ps) =>
        match ps with
        | some ps => checkEnum ps (Location.property name prop)
        | none => []

/-- String enum values must be UPPER_SNAKE_CASE. -/
def enumUpperSnakeCase : Rule where
  name := "enum-upper-snake-case"
  codes := [.enumNotUpperSnakeCase]
  description := "String enum values must be UPPER_SNAKE_CASE"
  check := checkEnumUpperSnakeCase

/-! ## The registry -/

/-- The built-in rules in registration order. -/
def builtIn : List Rule :=
  [operationDescription, propertyNameCase, postCreatedResponse, noGenericIdParameter,
    enumUpperSnakeCase]

/-- The built-in rule with a given name. -/
def byName? (name : String) : Option Rule := builtIn.find? (·.name == name)

/-- The built-in rules picked by some selector, in registration order, or the
first selector that picks none. -/
def select (selectors : List String) : Except String (List Rule) :=
  match selectors.find? (fun s => !builtIn.any (·.picks s)) with
  | some unknown => .error unknown
  | none => .ok (builtIn.filter fun r => selectors.any r.picks)

end Rules

end OpenApiLint
