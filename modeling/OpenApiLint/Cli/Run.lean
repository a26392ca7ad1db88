import OpenApiLint.Cli.Args
import OpenApiLint.Cli.Diagnostic
import OpenApiLint.Cli.ErrorChain
import OpenApiLint.Cli.Host
import OpenApiLint.Lint.Session
import OpenApiLint.PathName
/-!
# Running the command line

A run reads its arguments and carries out the command:

* `check` finds the configuration (the path given by `--config` or
  `OAS_LINT_CONFIG`; else `oas-lint.toml`, then `.oas-lint.toml`, in the
  working directory; else `config.toml` in `OAS_LINT_CONFIG_DIR`, or in
  `.oas-lint` under `HOME`; else the defaults), narrows it to the rules that
  `--rules` picks by switching the others off, builds the validator with all
  built-in rules, and lints each file in turn.  A document that cannot be
  read as one is counted and skipped; a file that cannot be read at all ends
  the run.  The results are printed, and with the GitHub format a summary is
  appended to the file named by `GITHUB_STEP_SUMMARY`.  The exit code is 2
  when a document failed, 1 when a violation reaches the failing severity,
  and 0 otherwise.
* `list-rules` prints the rules; `init` writes a configuration file unless
  one exists (or `--force` is given).

An error ends a run with exit code 1 and its chain of causes on standard
error; usage errors end it with exit code 2.

## Main definitions

* `Outcome`, `ConfigSource`, `runCommandLine`.
-/

namespace OpenApiLint

/-- What a run ends with. -/
structure Outcome where
  exitCode : Nat
  stdout : String := ""
  stderr : String := ""
  deriving Inhabited

/-- A run that fails with an error, after printing `stdout`. -/
def Outcome.failure (stdout : String) (e : ErrorChain) : Outcome :=
  { exitCode := 1, stdout, stderr := e.render }

/-- Where the configuration comes from. -/
inductive ConfigSource where
  | explicit (path : String)
  | project (path : String)
  | global (path : String)
  | defaults
  deriving Inhabited

/-- The path of a configuration source. -/
def ConfigSource.path? : ConfigSource → Option String
  | .explicit p | .project p | .global p => some p
  | .defaults => none

/-- The names a project configuration may have, in order of preference. -/
def projectConfigNames : List String := ["oas-lint.toml", ".oas-lint.toml"]

section

variable {m : Type → Type} [Monad m] (host : Host m)

/-- Find the configuration of a run. -/
def resolveConfig (env : Environment) (explicit : Option String) : m ConfigSource := do
  match explicit with
  | some p => pure (.explicit p)
  | none =>
    match ← (projectConfigNames.map (PathName.join env.workDir)).findM? host.present with
    | some p => pure (.project p)
    | none =>
      let home := (env.get? "HOME").filter (!·.isEmpty)
      let dir := (env.get? "OAS_LINT_CONFIG_DIR").orElse fun _ => home.map (PathName.join · ".oas-lint")
      match dir with
      | none => pure .defaults
      | some d =>
        let candidate := PathName.join d "config.toml"
        if ← host.present candidate then pure (.global candidate) else pure .defaults

/-- Read a configuration file. -/
def readConfigFile (path : String) : m (Except ConfigError Config) := do
  match ← host.readText path with
  | .error reason => pure (.error (.unreadable path reason))
  | .ok text => pure (Config.parse text)

/-- Load the configuration of a source. -/
def loadConfig (source : ConfigSource) : m (Except ErrorChain Config) := do
  match source.path? with
  | none => pure (.ok {})
  | some p =>
    let context := "Failed to load config: " ++ p
    match ← readConfigFile host p with
    | .ok c => pure (.ok c)
    | .error e@(.unreadable _ reason) => pure (.error { message := context, causes := [e.message, reason] })
    | .error e => pure (.error { message := context, causes := [e.message] })

end

/-- Switch off a rule, keeping its other settings. -/
def Config.disable (c : Config) (name : String) : Config :=
  c.setRule name { (c.ruleConfig? name).getD {} with enabled := some false }

/-- The selectors of a `--rules` value: its comma-separated parts, trimmed. -/
def selectorsOf (filter : String) : List String :=
  (filter.splitOn ",").map fun s => String.ofList (Text.trim s.toList)

/-- Keep only the built-in rules that some selector picks, switching the
others off. -/
def restrictTo (c : Config) (selectors : List String) : Except ErrorChain Config :=
  match Rules.select selectors with
  | .error s => .error { message := (LintError.unknownSelector s).message }
  | .ok picked =>
    .ok (Rules.builtIn.foldl (fun c r => if picked.any (·.name == r.name) then c else c.disable r.name) c)

/-- A file's lint result, or the reason it is not a document. -/
def lintFile (v : Validator) (file content : String) : Except ParseError FileReport := do
  let d ← parseDocument file content (SourceFormat.detect file content)
  pure { file, result := v.report d }

section

variable {m : Type → Type} [Monad m] (host : Host m)

/-- What linting the files gave: the reports, the number of documents that
failed, the reports of those written to standard error, and the error that
ended the run early, if any. -/
structure CheckRun where
  reports : List FileReport := []
  failed : Nat := 0
  notes : String := ""
  error : Option ErrorChain := none
  deriving Inhabited

/-- Lint files in turn, until one cannot be read.  A document that fails is
reported on standard error as a diagnostic followed by an empty line. -/
def lintFiles (v : Validator) : List String → m CheckRun
  | [] => pure {}
  | file :: rest => do
    match ← host.readText file with
    | .error reason => pure { error := some { message := "Failed to read " ++ file, causes := [reason] } }
    | .ok content =>
      let here : CheckRun := match lintFile v file content with
        | .ok r => { reports := [r] }
        | .error e => { failed := 1, notes := (e.diagnostic content).render ++ "\n" }
      let later ← lintFiles v rest
      pure { reports := here.reports ++ later.reports, failed := here.failed + later.failed,
             notes := here.notes ++ later.notes, error := later.error }

/-- The configuration of a check: loaded from its source, then narrowed to the
rules that `--rules` selects. -/
def checkConfig (source : ConfigSource) (rules : Option String) : m (Except ErrorChain Config) := do
  match ← loadConfig host source with
  | .error e => pure (.error e)
  | .ok c =>
    match rules with
    | none => pure (.ok c)
    | some filter => pure (restrictTo c (selectorsOf filter))

/-- The files of a check, linted with a built validator: the reports are
printed and, in the GitHub format, summarised; the exit code is 2 when a
document failed, 1 when a violation reaches `failOn`, and 0 otherwise. -/
def checkFiles (env : Environment) (files : List String) (format : OutputFormat)
    (failOn : Severity) (validator : Validator) : m Outcome := do
  let run ← lintFiles host validator files
  if let some e := run.error then
    return { exitCode := 1, stderr := run.notes ++ e.render }
  let (reports, failed, notes) := (run.reports, run.failed, run.notes)
  let stdout := renderReports format reports
  if format == .github then
    if let some path := env.get? "GITHUB_STEP_SUMMARY" then
      match ← host.appendFile path (stepSummary reports) with
      | .error reason =>
        let e : ErrorChain := { message := "Failed to open step summary " ++ path, causes := [reason] }
        return { exitCode := 1, stdout, stderr := notes ++ e.render }
      | .ok () => pure ()
  let code :=
    if failed > 0 then 2
    else if reports.any (·.result.hasViolationsAt failOn) then 1
    else 0
  pure { exitCode := code, stdout, stderr := notes }

/-- The `check` command. -/
def runCheck (env : Environment) (files : List String) (format : OutputFormat)
    (rules : Option String) (source : ConfigSource) : m Outcome := do
  match ← checkConfig host source rules with
  | .error e => pure (Outcome.failure "" e)
  | .ok config =>
    match Validator.build Rules.builtIn config with
    | .error e =>
      pure (Outcome.failure "" { message := "Failed to build validator", causes := [e.message] })
    | .ok v => checkFiles host env files format config.failOnSeverity v

/-- The `init` command. -/
def runInit (force : Bool) : m Outcome := do
  if (← host.present "oas-lint.toml") && !force then
    return Outcome.failure ""
      { message := "Configuration file already exists at oas-lint.toml. Use --force to overwrite." }
  match ← host.writeFile "oas-lint.toml" defaultConfigText with
  | .error reason => pure (Outcome.failure "" { message := reason })
  | .ok () => pure { exitCode := 0, stdout := initMessage }

/-- The version line. -/
def versionLine : String := "oas-lint 0.1.0\n"

/-- A run of the command line with its arguments (without the program name). -/
def runCommandLine (env : Environment) (args : List String) : m Outcome := do
  match readArgs (env.get? "OAS_LINT_CONFIG") args with
  | .usage reason => pure { exitCode := 2, stderr := "error: " ++ reason ++ "\n" }
  | .help text => pure { exitCode := 0, stdout := text }
  | .version => pure { exitCode := 0, stdout := versionLine }
  | .run inv =>
    let explicit := inv.config.orElse fun _ => env.get? "OAS_LINT_CONFIG"
    -- the variable is read at every level of the command line, so an empty
    -- value is refused even when the option is given
    if env.get? "OAS_LINT_CONFIG" == some "" then
      pure { exitCode := 2, stderr := "error: a value is required for '--config <CONFIG>'\n" }
    else
      match inv.command with
      | .check files format rules => do
        let source ← resolveConfig host env explicit
        runCheck host env files format rules source
      | .listRules => pure { exitCode := 0, stdout := rulesListing }
      | .init force => runInit host force

end

end OpenApiLint
