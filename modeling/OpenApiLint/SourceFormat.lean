import OpenApiLint.PathName
import OpenApiLint.Text.WhiteSpace
/-!
# Source formats

A document is JSON or YAML.  The file name's extension decides, in any ASCII
case (`json`; `yaml` or `yml`); without a known extension the text decides:
after leading white space, `{` starts JSON and anything else is YAML.

## Main definitions

* `SourceFormat.ofPath?`, `SourceFormat.sniff`, `SourceFormat.detect`.
-/

namespace OpenApiLint

/-- The notation a document is written in. -/
inductive SourceFormat where
  | json | yaml
  deriving DecidableEq, Inhabited

namespace SourceFormat

/-- `JSON` or `YAML`. -/
def label : SourceFormat → String
  | .json => "JSON" | .yaml => "YAML"

/-- The format named by a path's extension, ASCII case ignored. -/
def ofPath? (path : String) : Option SourceFormat :=
  match PathName.extension? path with
  | some ext =>
    let e := ext.toLower
    if e == "json" then some .json
    else if e == "yaml" || e == "yml" then some .yaml
    else none
  | none => none

/-- The format a text looks like: JSON when its first non-blank character is `{`. -/
def sniff (content : String) : SourceFormat :=
  match Text.trimStart content.toList with
  | '{' :: _ => .json
  | _ => .yaml

/-- The format of a document: by its path, else by its text. -/
def detect (path content : String) : SourceFormat := (ofPath? path).getD (sniff content)

end SourceFormat

end OpenApiLint
