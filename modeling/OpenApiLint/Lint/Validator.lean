import OpenApiLint.Lint.Rule
import OpenApiLint.Lint.Config
/-!
# The validator

A validator is a list of rules and a configuration.  Building one refuses a
rule name registered twice and a configured rule name that is not registered.
Validating runs the enabled rules in registration order and gives each
violation the rule's configured severity, else its default.

## Main definitions

* `Validator.build` — check and assemble.
* `Validator.validate`, `Validator.report`.
-/

namespace OpenApiLint

/-- Why a validator cannot be built. -/
inductive BuildError where
  | duplicateRule (name : String)
  | unknownRule (name : String)
  deriving DecidableEq, Inhabited

/-- The text of a build error. -/
def BuildError.message : BuildError → String
  | .duplicateRule n => s!"Rule `{n}` is registered more than once"
  | .unknownRule n => s!"Configuration references unknown rule `{n}`"

/-- A checked list of rules with a configuration. -/
structure Validator where
  rules : List Rule
  config : Config

namespace Validator

/-- The first rule whose name an earlier rule already has. -/
def firstRepeated (seen : List String) : List Rule → Option String
  | [] => none
  | r :: rest => if seen.contains r.name then some r.name else firstRepeated (r.name :: seen) rest

/-- Build a validator: a repeated rule name is refused first, then the first
configured rule name (in sorted order) that no rule has. -/
def build (rules : List Rule) (config : Config) : Except BuildError Validator :=
  match firstRepeated [] rules with
  | some n => .error (.duplicateRule n)
  | none =>
    match config.rules.find? (fun (n, _) => !rules.any (·.name == n)) with
    | some (n, _) => .error (.unknownRule n)
    | none => .ok ⟨rules, config⟩

/-- The severity a rule reports at. -/
def severityOf (v : Validator) (r : Rule) : Severity :=
  (v.config.ruleSeverity r.name).getD r.defaultSeverity

/-- The violations of the enabled rules, rule by rule in registration order. -/
def validate (v : Validator) (d : Document) : List Violation :=
  v.rules.flatMap fun r =>
    if v.config.ruleEnabled r.name then
      (r.check d).map fun x => { x with severity := v.severityOf r }
    else []

/-- The lint result of a document: its violations, its operations and its
component schemas counted. -/
def report (v : Validator) (d : Document) : LintResult :=
  { violations := v.validate d, operationsChecked := d.operations.length,
    schemasChecked := d.schemas.length }

end Validator

end OpenApiLint
