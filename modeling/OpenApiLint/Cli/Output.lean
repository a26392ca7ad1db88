import OpenApiLint.Lint.Rule
import OpenApiLint.Value.Print
/-!
# What a check prints

The results of a check, one per document, are printed in one of four forms:

* text: for each violation, `<CODE> at <location> (<file>)`, then the
  coloured severity and the message, then an empty line; last a coloured
  total over all documents (red with errors, yellow with warnings, else
  green);
* JSON: an array with one object per document — file, violations, and the
  numbers of operations and schemas checked — pretty-printed;
* compact: one line per violation, `<file>: <severity> [<CODE>] <location>: <message>`;
* GitHub: one workflow command per violation, `::error`, `::warning` or
  `::notice`, with the file and code as properties and `<location>: <message>`
  as data.  Data escapes `%`, carriage return and line feed as `%25`, `%0D`,
  `%0A`; properties also escape `:` and `,`.

The GitHub form can also append a Markdown summary to a file: a heading,
then a count, then a table of all violations with `|` escaped and line
feeds turned into spaces.

The list of rules and the messages of `init` are here too.

## Main definitions

* `OutputFormat`, `FileReport`, `renderReports`, `stepSummary`, `rulesListing`.
-/

namespace OpenApiLint

/-- How a check prints its results. -/
inductive OutputFormat where
  | text | json | compact | github
  deriving DecidableEq, Inhabited

/-- The format with a given name. -/
def OutputFormat.ofName? : String → Option OutputFormat
  | "text" => some .text
  | "json" => some .json
  | "compact" => some .compact
  | "github" => some .github
  | _ => none

/-- The lint result of one document of a check. -/
structure FileReport where
  file : String
  result : LintResult
  deriving Inhabited

/-- The escape that starts a colour, and the one that ends it. -/
def colored (code : String) (text : String) : String :=
  "\x1b[" ++ code ++ "m" ++ text ++ "\x1b[0m"

/-- A severity in its colour: red, yellow or blue. -/
def Severity.colored : Severity → String
  | .error => OpenApiLint.colored "31" "error"
  | .warning => OpenApiLint.colored "33" "warning"
  | .info => OpenApiLint.colored "34" "info"

/-- The text form. -/
def textReport (reports : List FileReport) : String :=
  let body := String.join <| reports.flatMap fun r => r.result.violations.map fun v =>
    v.code.label ++ " at " ++ v.location ++ " (" ++ r.file ++ ")\n" ++
      "  " ++ v.severity.colored ++ ": " ++ v.message ++ "\n\n"
  let sum (f : Nat × Nat × Nat → Nat) := reports.foldl (fun acc r => acc + f r.result.countBySeverity) 0
  let errors := sum (·.1)
  let warnings := sum (·.2.1)
  let infos := sum (·.2.2)
  let color := if errors > 0 then "31" else if warnings > 0 then "33" else "32"
  body ++ colored color ("Found " ++ toString errors ++ " error(s), " ++ toString warnings ++
    " warning(s), " ++ toString infos ++ " info(s) in " ++ toString reports.length ++ " document(s)") ++ "\n"

/-- A violation as a data value. -/
def Violation.toValue (v : Violation) : Value :=
  .obj [("code", .str v.code.label), ("severity", .str v.severity.label),
    ("location", .str v.location), ("message", .str v.message)]

/-- The JSON form. -/
def jsonReport (reports : List FileReport) : String :=
  (Value.arr (reports.map fun r => .obj [("file", .str r.file),
    ("violations", .arr (r.result.violations.map Violation.toValue)),
    ("operations_checked", .int r.result.operationsChecked),
    ("schemas_checked", .int r.result.schemasChecked)])).pretty ++ "\n"

/-- The compact form. -/
def compactReport (reports : List FileReport) : String :=
  String.join <| reports.flatMap fun r => r.result.violations.map fun v =>
    r.file ++ ": " ++ v.severity.label ++ " [" ++ v.code.label ++ "] " ++ v.location ++ ": " ++
      v.message ++ "\n"

/-- Escape workflow-command data. -/
def escapeData (s : String) : String :=
  ((s.replace '%' "%25").replace '\r' "%0D").replace '\n' "%0A"

/-- Escape a workflow-command property. -/
def escapeProperty (s : String) : String :=
  ((escapeData s).replace ':' "%3A").replace ',' "%2C"

/-- The workflow command of a violation. -/
def annotation (file : String) (v : Violation) : String :=
  let command := match v.severity with
    | .error => "error"
    | .warning => "warning"
    | .info => "notice"
  "::" ++ command ++ " file=" ++ escapeProperty file ++ ",title=" ++ escapeProperty v.code.label ++
    "::" ++ escapeData (v.location ++ ": " ++ v.message)

/-- The GitHub form. -/
def githubReport (reports : List FileReport) : String :=
  String.join <| reports.flatMap fun r => r.result.violations.map fun v => annotation r.file v ++ "\n"

/-- The results in a format. -/
def renderReports (format : OutputFormat) (reports : List FileReport) : String :=
  match format with
  | .text => textReport reports
  | .json => jsonReport reports
  | .compact => compactReport reports
  | .github => githubReport reports

/-- Escape a table cell. -/
def escapeCell (s : String) : String := (s.replace '|' "\\|").replace '\n' " "

/-- The Markdown summary of a check. -/
def stepSummary (reports : List FileReport) : String :=
  let total := reports.foldl (fun acc r => acc + r.result.violations.length) 0
  let docs := toString reports.length
  if total = 0 then "## oas-lint\n\nNo violations found in " ++ docs ++ " document(s).\n"
  else
    "## oas-lint\n\n" ++ toString total ++ " violation(s) in " ++ docs ++ " document(s).\n\n" ++
      "| File | Severity | Code | Location | Message |\n" ++
      "|------|----------|------|----------|---------|\n" ++
      String.join (reports.flatMap fun r => r.result.violations.map fun v =>
        "| " ++ escapeCell r.file ++ " | " ++ v.severity.label ++ " | \x60" ++ v.code.label ++
          "\x60 | " ++ escapeCell v.location ++ " | " ++ escapeCell v.message ++ " |\n")

/-- Text padded with spaces to a width in characters. -/
def padRight (width : Nat) (s : String) : String :=
  s ++ String.ofList (List.replicate (width - s.length) ' ')

/-- The listing of the built-in rules. -/
def rulesListing : String :=
  let rows := Rules.builtIn.flatMap fun r =>
    r.codes.zipIdx.map fun (c, i) =>
      if i = 0 then padRight 26 r.name ++ " " ++ padRight 32 c.label ++ " " ++ r.description ++ "\n"
      else padRight 26 "" ++ " " ++ padRight 32 c.label ++ "\n"
  "Available rules (in execution order):\n\n" ++
    padRight 26 "Name" ++ " " ++ padRight 32 "Codes" ++ " Description\n" ++
    String.ofList (List.replicate 100 '-') ++ "\n" ++
    String.join rows ++
    "\nUse --rules to run a subset, by rule name or violation code, e.g.:\n" ++
    "  oas-lint check openapi.yaml --rules operation-description,post-created-response\n" ++
    "  oas-lint check openapi.yaml --rules ENUM_NOT_UPPER_SNAKE_CASE\n"

/-- The configuration that `init` writes. -/
def defaultConfigText : String :=
  "# oas-lint configuration\n\n" ++
  "# Fail when any violation reaches this severity: \"error\", \"warning\" or \"info\".\n" ++
  "fail-on = \"error\"\n\n" ++
  "# Each rule can be disabled or have its severity overridden.\n" ++
  "# Rules run (and report) in this order.\n\n" ++
  "[rules.operation-description]\nenabled = true\n\n" ++
  "[rules.property-name-case]\nenabled = true\n\n" ++
  "[rules.post-created-response]\nenabled = true\n# severity = \"warning\"\n\n" ++
  "[rules.no-generic-id-parameter]\nenabled = true\n\n" ++
  "[rules.enum-upper-snake-case]\nenabled = true\n"

/-- What `init` prints after writing the configuration. -/
def initMessage : String :=
  "Created oas-lint.toml\n\nNext steps:\n  1. Edit oas-lint.toml to configure rules\n" ++
    "  2. Run: oas-lint check openapi.yaml\n"

end OpenApiLint
