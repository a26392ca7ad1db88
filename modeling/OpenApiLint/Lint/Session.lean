import OpenApiLint.Lint.Validator
import OpenApiLint.Lint.Config.Read
import OpenApiLint.Document.Parse
/-!
# A lint run

A run lints one document text.  Its steps come in a fixed order, and the
first that fails ends the run: the configuration text is read; the rules are
chosen (all built-in rules, a given list, or those a list of selectors
picks); the validator is built from the rules and the configuration; the
document is read.  Then the validator reports on the document.

## Main definitions

* `LintError` — why a run stops, with its kind and message.
* `RuleChoice` — how the rules of a run are chosen.
* `lintText` — a whole run.
-/

namespace OpenApiLint

/-- Why a run stops before a report. -/
inductive LintError where
  | config (e : ConfigError)
  | unknownSelector (selector : String)
  | build (e : BuildError)
  | parse (e : ParseError)
  deriving Inhabited

namespace LintError

/-- The kind of the error, as one word. -/
def kind : LintError → String
  | .config _ => "ConfigParse"
  | .unknownSelector _ => "UnknownRuleSelector"
  | .build (.duplicateRule _) => "DuplicateRule"
  | .build (.unknownRule _) => "UnknownRule"
  | .parse e => e.kind

/-- The text of the error. -/
def message : LintError → String
  | .config e => e.message
  | .unknownSelector s => "Unknown rule \x60" ++ s ++ "\x60"
  | .build e => e.message
  | .parse e => e.message

end LintError

/-- The rules picked by selectors, or the first selector that picks none. -/
def selectRules (selectors : List String) : Except LintError (List Rule) :=
  (Rules.select selectors).mapError .unknownSelector

/-- How the rules of a run are chosen. -/
inductive RuleChoice where
  /-- All built-in rules, in registration order. -/
  | builtIn
  /-- These rules, in this order; a rule may come twice. -/
  | listed (rules : List Rule)
  /-- The built-in rules some selector picks. -/
  | selected (selectors : List String)
  deriving Inhabited

/-- The rules of a choice. -/
def RuleChoice.rules : RuleChoice → Except LintError (List Rule)
  | .builtIn => .ok Rules.builtIn
  | .listed rs => .ok rs
  | .selected sels => selectRules sels

/-- What a run produces. -/
structure LintRun where
  format : SourceFormat
  document : Document
  validator : Validator
  result : LintResult
  /-- The severity at or above which the run fails. -/
  failOn : Severity

/-- Lint a document text.  The failing severity is the one given, else the
configuration's. -/
def lintText (name content : String) (format : SourceFormat) (configText : Option String)
    (choice : RuleChoice) (failOn : Option Severity) : Except LintError LintRun := do
  let config ← match configText with
    | some t => (Config.parse t).mapError .config
    | none => pure {}
  let rules ← choice.rules
  let validator ← (Validator.build rules config).mapError .build
  let document ← (parseDocument name content format).mapError .parse
  pure { format, document, validator, result := validator.report document,
         failOn := failOn.getD config.failOnSeverity }

end OpenApiLint
