/-!
# Violations and lint results

A violation names a rule's finding: a code from a closed set, a severity, a
location in the document and a message.  A lint result collects the
violations of one document together with how many operations and schemas were
looked at.

## Main definitions

* `Severity` — `info < warning < error`.
* `Code` — the six violation codes, in registration order.
* `LintResult.countBySeverity`, `LintResult.countByCode`, `LintResult.testReport`.
-/

namespace OpenApiLint

/-- How serious a violation is. -/
inductive Severity where
  | info | warning | error
  deriving DecidableEq, Inhabited

namespace Severity

/-- The rank of a severity: `info` 0, `warning` 1, `error` 2. -/
def rank : Severity → Nat
  | .info => 0 | .warning => 1 | .error => 2

/-- `a` is at least as serious as `b`. -/
def atLeast (a b : Severity) : Bool := a.rank ≥ b.rank

/-- The lower-case name of a severity. -/
def label : Severity → String
  | .info => "info" | .warning => "warning" | .error => "error"

/-- The severity with an exact lower-case name. -/
def parse? : String → Option Severity
  | "error" => some .error
  | "warning" => some .warning
  | "info" => some .info
  | _ => none

/-- All severities, most serious first. -/
def all : List Severity := [.error, .warning, .info]

end Severity

/-- A violation code. -/
inductive Code where
  | missingOperationDescription
  | invalidPropertyNameCase
  | postMissingResponses
  | postShouldReturn201
  | genericIdParameterName
  | enumNotUpperSnakeCase
  deriving DecidableEq, Inhabited

namespace Code

/-- Every code, in registration order. -/
def all : List Code :=
  [.missingOperationDescription, .invalidPropertyNameCase, .postMissingResponses,
    .postShouldReturn201, .genericIdParameterName, .enumNotUpperSnakeCase]

/-- The wire identifier of a code. -/
def label : Code → String
  | .missingOperationDescription => "MISSING_OPERATION_DESCRIPTION"
  | .invalidPropertyNameCase => "INVALID_PROPERTY_NAME_CASE"
  | .postMissingResponses => "POST_MISSING_RESPONSES"
  | .postShouldReturn201 => "POST_SHOULD_RETURN_201"
  | .genericIdParameterName => "GENERIC_ID_PARAMETER_NAME"
  | .enumNotUpperSnakeCase => "ENUM_NOT_UPPER_SNAKE_CASE"

/-- The code with an exact wire identifier. -/
def parse? (s : String) : Option Code := all.find? (·.label == s)

/-- The place of a code in declaration order, the order codes are sorted in. -/
def rank : Code → Nat
  | .missingOperationDescription => 0
  | .invalidPropertyNameCase => 1
  | .postMissingResponses => 2
  | .postShouldReturn201 => 3
  | .genericIdParameterName => 4
  | .enumNotUpperSnakeCase => 5

end Code

/-- A finding of a rule. -/
structure Violation where
  code : Code
  severity : Severity := .error
  location : String
  message : String
  deriving DecidableEq, Inhabited

namespace Violation

/-- One line: `<CODE> at <location>: <message>`. -/
def display (v : Violation) : String := s!"{v.code.label} at {v.location}: {v.message}"

/-- The two-line block of a report: `<CODE> at <location>`, then the severity
and message indented by two spaces, each line ending in a newline. -/
def block (v : Violation) : String :=
  s!"{v.code.label} at {v.location}\n  {v.severity.label}: {v.message}\n"

end Violation

/-- The outcome of linting one document. -/
structure LintResult where
  violations : List Violation := []
  operationsChecked : Nat := 0
  schemasChecked : Nat := 0
  deriving Inhabited

namespace LintResult

/-- The numbers of errors, warnings and infos, with one violation added. -/
def tally : Nat × Nat × Nat → Violation → Nat × Nat × Nat
  | (e, w, i), v =>
    match v.severity with
    | .error => (e + 1, w, i)
    | .warning => (e, w + 1, i)
    | .info => (e, w, i + 1)

/-- The numbers of errors, warnings and infos, tallied violation by violation. -/
def countBySeverity (r : LintResult) : Nat × Nat × Nat := r.violations.foldl tally (0, 0, 0)

/-- A count table sorted by code, with one more occurrence of `c`: a code
already there goes up by one, a new one comes in at its place with count one. -/
def bumpCount : List (Code × Nat) → Code → List (Code × Nat)
  | [], c => [(c, 1)]
  | (c', n) :: rest, c =>
    if c.rank < c'.rank then (c, 1) :: (c', n) :: rest
    else if c = c' then (c', n + 1) :: rest
    else (c', n) :: bumpCount rest c

/-- For each code that occurs, in code order, how often it occurs: a table
sorted by code, bumped violation by violation. -/
def countByCode (r : LintResult) : List (Code × Nat) :=
  r.violations.foldl (fun counts v => bumpCount counts v.code) []

/-- Whether some violation is at least as serious as `s`. -/
def hasViolationsAt (r : LintResult) (s : Severity) : Bool := r.violations.any (·.severity.atLeast s)

/-- Whether some violation is an error. -/
def hasErrors (r : LintResult) : Bool := r.hasViolationsAt .error

/-- The failure report of a test run: the violations at or above `failOn`,
then totals over all violations. -/
def testReport (r : LintResult) (failOn : Severity) : String :=
  let failing := r.violations.filter (·.severity.atLeast failOn)
  let (e, w, i) := r.countBySeverity
  s!"\n=== oas-lint: {failing.length} violation(s) ===\n\n" ++
    String.join (failing.map fun v => v.block ++ "\n") ++
    s!"Total: {e} error(s), {w} warning(s), {i} info(s) in {r.operationsChecked} operation(s), {r.schemasChecked} schema(s)\n"

end LintResult

end OpenApiLint
