import OpenApiLint.Cli.Run
/-!
# Checking a document from a test suite

A test may check one document of a project: the document and the
configuration are found from the project's root directory (the configuration
given, else `oas-lint.toml`, then `.oas-lint.toml`, else the defaults), the
document is linted with all built-in rules, and the test fails when a
violation reaches the failing severity.  A failure carries a message: the
test report, or what could not be read, parsed or built, each after
`oas-lint: `.

## Main definitions

* `checkSpec` — the check, with the failure message if it fails.
-/

namespace OpenApiLint

section

variable {m : Type → Type} [Monad m] (host : Host m)

/-- The configuration of a check, or the failure message. -/
def specConfig (root : String) (explicit : Option String) : m (Except String Config) := do
  let path? ← match explicit with
    | some p => pure (some (PathName.join root p))
    | none => (projectConfigNames.map (PathName.join root)).findM? host.present
  match path? with
  | none => pure (.ok {})
  | some p =>
    match ← readConfigFile host p with
    | .ok c => pure (.ok c)
    | .error e => pure (.error ("oas-lint: failed to load config " ++ p ++ ": " ++ e.message))

/-- Check a document of the project at `root`; the failure message if the
check fails. -/
def checkSpec (root document : String) (config : Option String) : m (Except String Unit) := do
  let config ← match ← specConfig host root config with
    | .error e => return .error e
    | .ok c => pure c
  let failOn := config.failOnSeverity
  let path := PathName.join root document
  let content ← match ← host.readText path with
    | .error reason => return .error ("oas-lint: failed to read " ++ path ++ ": " ++ reason)
    | .ok t => pure t
  let doc ← match parseDocument path content (SourceFormat.detect path content) with
    | .error e => return .error ("oas-lint: " ++ e.message)
    | .ok d => pure d
  let validator ← match Validator.build Rules.builtIn config with
    | .error e => return .error ("oas-lint: failed to build validator: " ++ e.message)
    | .ok v => pure v
  let result := validator.report doc
  if result.hasViolationsAt failOn then pure (.error (result.testReport failOn)) else pure (.ok ())

end

end OpenApiLint
