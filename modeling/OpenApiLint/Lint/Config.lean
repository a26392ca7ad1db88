import OpenApiLint.Lint.Violation
import OpenApiLint.KeyedList
/-!
# Configuration

A configuration says at which severity a run fails and, per rule name,
whether the rule runs and at which severity it reports.  Rule settings are
kept sorted by rule name.

## Main definitions

* `Config.ruleEnabled` — a rule runs unless its settings say `enabled = false`.
* `Config.ruleSeverity` — the severity override of a rule, if any.
* `Config.failOnSeverity` — the configured `fail-on`, else `error`.
-/

namespace OpenApiLint

/-- The settings of one rule. -/
structure RuleConfig where
  enabled : Option Bool := none
  severity : Option Severity := none
  deriving DecidableEq, Inhabited

/-- A configuration. -/
structure Config where
  failOn : Option Severity := none
  rules : List (String × RuleConfig) := []
  deriving Inhabited

/-- Insert into a list sorted by key, replacing an equal key. -/
def insertSorted {α : Type} : List (String × α) → String → α → List (String × α)
  | [], k, v => [(k, v)]
  | (k', v') :: rest, k, v =>
    if k < k' then (k, v) :: (k', v') :: rest
    else if k = k' then (k, v) :: rest
    else (k', v') :: insertSorted rest k v

namespace Config

/-- The settings of a rule, if the configuration names it. -/
def ruleConfig? (c : Config) (name : String) : Option RuleConfig := KeyedList.lookup c.rules name

/-- Whether a rule runs. -/
def ruleEnabled (c : Config) (name : String) : Bool :=
  match c.ruleConfig? name with
  | some rc => rc.enabled.getD true
  | none => true

/-- The severity override of a rule. -/
def ruleSeverity (c : Config) (name : String) : Option Severity :=
  (c.ruleConfig? name).bind (·.severity)

/-- The severity at or above which a run fails. -/
def failOnSeverity (c : Config) : Severity := c.failOn.getD .error

/-- The configuration with the settings of one rule replaced. -/
def setRule (c : Config) (name : String) (rc : RuleConfig) : Config :=
  { c with rules := insertSorted c.rules name rc }

end Config

end OpenApiLint
