import OpenApiLint.Document.Basic
/-!
# Locations

The human-readable pointers into a document that violations carry.
-/

namespace OpenApiLint.Location

/-- `<METHOD> <path>`. -/
def operation (m : Method) (path : String) : String := s!"{m.label} {path}"

/-- `[<METHOD> ]<path> param '<name>' in <in>`: with the method for an
operation's parameter, without it for a path item's. -/
def parameter (m : Option Method) (path name location : String) : String :=
  match m with
  | some m => s!"{m.label} {path} param '{name}' in {location}"
  | none => s!"{path} param '{name}' in {location}"

/-- `schema <name>`. -/
def schema (name : String) : String := s!"schema {name}"

/-- `schema <name>.properties.<property>`. -/
def property (name prop : String) : String := s!"schema {name}.properties.{prop}"

end OpenApiLint.Location
