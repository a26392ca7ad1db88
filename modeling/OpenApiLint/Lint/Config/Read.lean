import OpenApiLint.Lint.Config
import OpenApiLint.Toml.Document
import OpenApiLint.Document.Decoder
/-!
# Reading a configuration from TOML

A configuration file is a TOML document with two keys that matter: `fail-on`,
a severity, and `rules`, a table from rule names to settings with `enabled`
(a boolean) and `severity`.  Other keys are ignored at every level.

Reading is lenient the way a general data mapping is: a severity may also be
written as a table with one key naming it and an empty value, rule settings
may be given positionally as an array, and a date where settings are expected
counts as no settings.  A value of the wrong kind is refused with a message
naming what was found and what was expected, pointing at the value (or, for
a table made only on the way to a longer key, at its key).

## Main definitions

* `ConfigError` — why a configuration cannot be had.
* `Config.parse` — the configuration of a TOML text.
-/

namespace OpenApiLint

open Toml

/-- A value of the wrong kind: the message, and the span it is about once known. -/
structure Mismatch where
  message : String
  span : Option Span := none
  deriving Inhabited

/-- Give a mismatch a place, unless it has one. -/
def placed {α : Type} (sp : Option Span) : Except Mismatch α → Except Mismatch α
  | .error m => .error { m with span := m.span <|> sp }
  | .ok a => .ok a

/-- Refuse with a message. -/
def mismatch {α : Type} (message : String) (span : Option Span := none) : Except Mismatch α :=
  .error { message, span }

/-- How a TOML node is named when it has the wrong kind. -/
def Toml.Node.found : Node → Found
  | .string s _ => .str s
  | .integer n _ => .signed n
  | .float x _ => .float x
  | .boolean b _ => .bool b
  | .array .. | .tables .. => .seq
  | .datetime .. | .inlineTable .. | .table .. => .map

/-- A boolean. -/
def readBool (n : Node) : Except Mismatch Bool :=
  placed n.span? <| match n with
    | .boolean b _ => .ok b
    | other => mismatch (invalidType other.found "a boolean")

/-- The severity a name spells. -/
def severityNamed (name : String) : Except Mismatch Severity :=
  match Severity.parse? name with
  | some s => .ok s
  | none => mismatch ("unknown variant \x60" ++ name ++ "\x60, expected one of \x60info\x60, \x60warning\x60, \x60error\x60")

/-- The value under a severity named by a key: it must be empty. -/
def emptyPayload (n : Node) : Except Mismatch Unit :=
  match n with
  | .tables items sp =>
    if items.isEmpty then .ok () else mismatch "expected empty array" sp
  | .array items sp =>
    if items.isEmpty then .ok () else mismatch "expected empty array" (some sp)
  | .table es _ _ sp | .inlineTable es _ _ sp =>
    if es.isEmpty then .ok () else mismatch "expected empty table" sp
  | other => mismatch ("expected table, found " ++ other.typeName) other.span?

/-- A severity named by the key of a one-entry table. -/
def severityOfEntry (k : Key) (v : Node) : Except Mismatch Severity := do
  let s ← placed (some k.span) (severityNamed k.name)
  emptyPayload v
  pure s

/-- A severity: its name as a string, or a table whose first key names it. -/
def readSeverity (n : Node) : Except Mismatch Severity :=
  placed n.span? <| match n with
    | .string s _ => severityNamed s
    | .inlineTable es _ _ sp =>
      match es with
      | [] => mismatch "wanted exactly 1 element, found 0 elements" sp
      | [(k, v)] => severityOfEntry k v
      | _ => mismatch "wanted exactly 1 element, more than 1 element" sp
    | .table es _ _ sp =>
      match es with
      | [] => mismatch "expected table with exactly 1 entry, found empty table" sp
      | [(k, v)] => severityOfEntry k v
      | _ => mismatch "wanted exactly 1 element, more than 1 element" sp
    | other => mismatch "wanted string or table" other.span?

/-- The place of an entry's value: the value's span, else the key's. -/
def entrySpan (k : Key) (v : Node) : Option Span := v.span? <|> some k.span

/-- Rule settings from named entries; other names are ignored. -/
def ruleOfEntries (entries : List (Key × Node)) : Except Mismatch RuleConfig :=
  entries.foldlM (fun rc (k, v) =>
    if k.name == "enabled" then do
      let b ← placed (entrySpan k v) (readBool v)
      pure { rc with enabled := some b }
    else if k.name == "severity" then do
      let s ← placed (entrySpan k v) (readSeverity v)
      pure { rc with severity := some s }
    else pure rc) {}

/-- Rule settings given positionally: `enabled`, then `severity`. -/
def ruleOfItems (items : List Node) : Except Mismatch RuleConfig := do
  let enabled ← match items with
    | n :: _ => some <$> readBool n
    | [] => pure none
  let severity ← match items with
    | _ :: n :: _ => some <$> readSeverity n
    | _ => pure none
  pure { enabled, severity }

/-- The settings of one rule. -/
def readRule (n : Node) : Except Mismatch RuleConfig :=
  placed n.span? <| match n with
    | .table es .. | .inlineTable es .. => ruleOfEntries es
    | .array items _ | .tables items _ => ruleOfItems items
    | .datetime .. => .ok {}
    | other => mismatch (invalidType other.found "struct RuleConfig")

/-- The rules table: settings by rule name, kept sorted. -/
def readRules (n : Node) : Except Mismatch (List (String × RuleConfig)) :=
  placed n.span? <| match n with
    | .table es .. | .inlineTable es .. =>
      es.foldlM (fun acc (k, v) => do
        let rc ← placed (entrySpan k v) (readRule v)
        pure (insertSorted acc k.name rc)) []
    | .datetime d _ => mismatch (invalidType (.str d.render) "struct RuleConfig")
    | other => mismatch (invalidType other.found "a map")

/-- The configuration of a root table. -/
def readConfig (root : Table) : Except Mismatch Config :=
  root.entries.foldlM (fun c (k, v) =>
    if k.name == "fail-on" then do
      let s ← placed (entrySpan k v) (readSeverity v)
      pure { c with failOn := some s }
    else if k.name == "rules" then do
      let rs ← placed (entrySpan k v) (readRules v)
      pure { c with rules := rs }
    else pure c) {}

/-- Why a configuration cannot be had. -/
inductive ConfigError where
  /-- The file could not be read. -/
  | unreadable (path : String) (reason : String)
  /-- The text is not a configuration; the TOML report. -/
  | malformed (report : String)
  deriving Inhabited

/-- The text of a configuration error. -/
def ConfigError.message : ConfigError → String
  | .unreadable path reason => "Failed to read config file " ++ path ++ ": " ++ reason
  | .malformed report => "Failed to parse config: " ++ report

/-- The configuration of a TOML text. -/
def Config.parse (text : String) : Except ConfigError Config :=
  let bytes := text.toUTF8
  match Toml.parseDocument text with
  | .error r => .error (.malformed (r.render bytes))
  | .ok root =>
    match readConfig root with
    | .ok c => .ok c
    | .error m => .error (.malformed (Report.render bytes { message := m.message, span := m.span }))

end OpenApiLint
