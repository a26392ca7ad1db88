import OpenApiLint.Cli.Output
/-!
# Reading the command line

The command line is `oas-lint [OPTIONS] <COMMAND>`, with the commands
`check <FILES>...` (options `-f`/`--format` and `--rules`), `list-rules`,
`init` (option `--force`) and `help`.  `-v`/`--verbose` and `-c`/`--config`
may stand before or after the command; `-h`/`--help` asks for help anywhere,
and `-V`/`--version` before the command asks for the version.

Options follow the usual conventions: a long option takes its value after
`=` or as the next argument, a short one right after its letter (an `=`
there is skipped) or as the next argument; short flags may be grouped, as in
`-vf json`; after `--` every argument is a file.  An argument that looks
like an option cannot be a value.  Each option may be given once before the
command and once after it; given at both places, the later value counts.  A
path may not be empty, and the format must be one of `text`, `json`,
`compact`, `github`.  Anything else is a usage error.

## Main definitions

* `Command`, `Invocation`, `ArgsOutcome`.
* `readArgs` — the meaning of the arguments.
-/

namespace OpenApiLint

/-- A command of the command line. -/
inductive Command where
  | check (files : List String) (format : OutputFormat) (rules : Option String)
  | listRules
  | init (force : Bool)
  deriving Inhabited

/-- A command with the options that apply to all commands. -/
structure Invocation where
  verbose : Bool := false
  config : Option String := none
  command : Command
  deriving Inhabited

/-- What the arguments ask for. -/
inductive ArgsOutcome where
  | run (inv : Invocation)
  /-- Help text for standard output. -/
  | help (text : String)
  | version
  /-- The arguments are not a valid command line; the reason. -/
  | usage (reason : String)
  deriving Inhabited

/-- The commands. -/
inductive CommandName where
  | check | listRules | init | help
  deriving DecidableEq, Inhabited

/-- The command with a given name. -/
def CommandName.ofName? : String → Option CommandName
  | "check" => some .check
  | "list-rules" => some .listRules
  | "init" => some .init
  | "help" => some .help
  | _ => none

/-! ## Help texts

A help text is the command's description, its usage line, then its sections
(commands, arguments, options).  The short layout puts each entry on one
line, descriptions aligned two spaces after the widest entry, with the notes
(default, environment variable, possible values) after the description.  The
long layout puts the description on the next line, indented by ten spaces,
then the possible values one per line with their meanings, then the notes
below them, and leaves an empty line between entries.  Only `check` has a long
layout, because only its `--format` values carry meanings; `--help` and
`help check` show it, `-h` the short one. -/

/-- An entry of a help listing. -/
structure HelpEntry where
  /-- The entry as written, as `-f, --format <FORMAT>`; an option without a
  short letter is indented to line up with those that have one. -/
  spec : String
  about : String
  /-- Notes such as the default or the environment variable. -/
  notes : List String := []
  /-- The values the option takes, with their meanings. -/
  values : List (String × String) := []
  deriving Inhabited

/-- Ten spaces: where the long layout puts descriptions. -/
def longIndent : String := "          "

/-- A section in the short layout. -/
def shortSection (entries : List HelpEntry) : String :=
  let width := entries.foldl (fun w e => max w e.spec.length) 0
  "\n".intercalate <| entries.map fun e =>
    let valueNote :=
      if e.values.isEmpty then []
      else ["[possible values: " ++ ", ".intercalate (e.values.map (·.1)) ++ "]"]
    "  " ++ padRight width e.spec ++ "  " ++ " ".intercalate (e.about :: e.notes ++ valueNote)

/-- An entry in the long layout. -/
def longEntry (e : HelpEntry) : String :=
  let width := e.values.foldl (fun w v => max w v.1.length) 0
  let notes :=
    if e.notes.isEmpty then ""
    else "\n" ++ longIndent ++ "\n" ++ longIndent ++ ("\n" ++ longIndent).intercalate e.notes
  let values :=
    if e.values.isEmpty then ""
    else "\n\n" ++ longIndent ++ "Possible values:" ++ String.join (e.values.map fun (name, meaning) =>
      "\n" ++ longIndent ++ "- " ++ name ++ ": " ++ padRight (width - name.length) "" ++ meaning)
  "  " ++ e.spec ++ "\n" ++ longIndent ++ e.about ++ values ++ notes

/-- A section in the long layout. -/
def longSection (entries : List HelpEntry) : String := "\n\n".intercalate (entries.map longEntry)

/-- A whole help text from its sections, each a heading and its entries. -/
def helpText (about usage : String) (long : Bool) (sections : List (String × List HelpEntry)) :
    String :=
  about ++ "\n\nUsage: " ++ usage ++ "\n\n" ++
    "\n\n".intercalate (sections.map fun (heading, entries) =>
      heading ++ ":\n" ++ if long then longSection entries else shortSection entries) ++ "\n"

/-- `-v`, shared by all commands. -/
def verboseEntry : HelpEntry := { spec := "-v, --verbose", about := "Enable verbose output" }

/-- `-c`, shared by all commands; the note shows the variable's value, if it
is set. -/
def configEntry (configVar : Option String) : HelpEntry :=
  { spec := "-c, --config <CONFIG>", about := "Path to configuration file",
    notes := ["[env: OAS_LINT_CONFIG=" ++ configVar.getD "" ++ "]"] }

/-- The help of the program. -/
def mainHelp (configVar : Option String) : String :=
  helpText "CLI tool for oas-lint OpenAPI style linter" "oas-lint [OPTIONS] <COMMAND>" false [
    ("Commands", [
      { spec := "check", about := "Lint one or more OpenAPI documents (JSON or YAML)" },
      { spec := "list-rules", about := "List available rules" },
      { spec := "init", about := "Initialize configuration file" },
      { spec := "help", about := "Print this message or the help of the given subcommand(s)" }]),
    ("Options", [verboseEntry, configEntry configVar,
      { spec := "-h, --help", about := "Print help" },
      { spec := "-V, --version", about := "Print version" }])]

/-- The help of a command, in the long layout when `long` is set and the
command has one.  The shared options are listed by their place among the
command's own declarations: `check` shows `--format`, `-v`, `-c`, then
`--rules`. -/
def commandHelp (configVar : Option String) (long : Bool) : CommandName → String
  | .check =>
    helpText "Lint one or more OpenAPI documents (JSON or YAML)" "oas-lint check [OPTIONS] <FILES>..." long [
      ("Arguments", [{ spec := "<FILES>...", about := "Documents to lint" }]),
      ("Options", [
        { spec := "-f, --format <FORMAT>", about := "Output format", notes := ["[default: text]"],
          values := [("text", "Human-readable text output"), ("json", "JSON output"),
            ("compact", "One-line-per-violation compact format"),
            ("github", "GitHub Actions workflow commands, plus a step summary")] },
        verboseEntry, configEntry configVar,
        { spec := "    --rules <RULES>",
          about := "Only run specific rules, by name or violation code (comma-separated)" },
        { spec := "-h, --help",
          about := if long then "Print help (see a summary with \x27-h\x27)"
            else "Print help (see more with \x27--help\x27)" }])]
  | .listRules =>
    helpText "List available rules" "oas-lint list-rules [OPTIONS]" false [
      ("Options", [verboseEntry, configEntry configVar, { spec := "-h, --help", about := "Print help" }])]
  | .init =>
    helpText "Initialize configuration file" "oas-lint init [OPTIONS]" false [
      ("Options", [{ spec := "    --force", about := "Overwrite existing config" }, verboseEntry,
        configEntry configVar, { spec := "-h, --help", about := "Print help" }])]
  | .help =>
    helpText "Print this message or the help of the given subcommand(s)" "oas-lint help [COMMAND]..." false [
      ("Arguments", [{ spec := "[COMMAND]...", about := "Print help for the subcommand(s)" }])]

/-! ## Options -/

/-- The options met so far, by their long names, with their values. -/
structure Seen where
  flags : List String := []
  values : List (String × String) := []
  files : List String := []
  deriving Inhabited

/-- Whether an argument looks like an option, and so cannot be a value. -/
def looksLikeOption (arg : String) : Bool := arg.startsWith "-" && arg != "-"

/-- The options a place of the command line knows: long name, short letter,
and whether it takes a value. -/
def optionsOf : Option CommandName → List (String × Option Char × Bool)
  | none => [("verbose", some 'v', false), ("config", some 'c', true)]
  | some .check =>
    [("format", some 'f', true), ("rules", none, true), ("verbose", some 'v', false), ("config", some 'c', true)]
  | some .init => [("force", none, false), ("verbose", some 'v', false), ("config", some 'c', true)]
  | some _ => [("verbose", some 'v', false), ("config", some 'c', true)]

/-- Record a flag; a second time is a usage error. -/
def Seen.flag (s : Seen) (name : String) : Except String Seen :=
  if s.flags.contains name then .error ("the argument '--" ++ name ++ "' cannot be used multiple times")
  else .ok { s with flags := s.flags ++ [name] }

/-- Record an option's value, checking it. -/
def Seen.value (s : Seen) (name value : String) : Except String Seen :=
  if (s.values.map (·.1)).contains name then
    .error ("the argument '--" ++ name ++ "' cannot be used multiple times")
  else if name == "config" && value.isEmpty then .error "a value is required for '--config <CONFIG>'"
  else if name == "format" && (OutputFormat.ofName? value).isNone then
    .error ("invalid value '" ++ value ++ "' for '--format <FORMAT>'")
  else .ok { s with values := s.values ++ [(name, value)] }

/-- Where reading the arguments stands: the command, if named yet, and what
was seen before it and since. -/
structure ArgsState where
  /-- The value of `OAS_LINT_CONFIG`, which help texts show. -/
  configVar : Option String := none
  command : Option CommandName := none
  /-- What was seen before the command. -/
  before : Seen := {}
  /-- What was seen since the last command word (all of it, before one). -/
  seen : Seen := {}
  deriving Inhabited

/-- The outcome of one step of reading. -/
inductive Step where
  /-- Go on, with the arguments left. -/
  | next (st : ArgsState) (rest : List String)
  | done (outcome : ArgsOutcome)
  deriving Inhabited

/-- A long option `--name` or `--name=value`. -/
def longOption (st : ArgsState) (body : String) (rest : List String) : Step :=
  let (name, inline) := match body.splitOn "=" with
    | [n] => (n, none)
    | n :: vs => (n, some ("=".intercalate vs))
    | [] => (body, none)
  if name == "help" then .done (.help (match st.command with
    | some c => commandHelp st.configVar true c
    | none => mainHelp st.configVar))
  else if name == "version" && st.command.isNone then .done .version
  else
    match (optionsOf st.command).find? (·.1 == name) with
    | none => .done (.usage ("unexpected argument '--" ++ name ++ "'"))
    | some (_, _, false) =>
      if inline.isSome then .done (.usage ("unexpected value for '--" ++ name ++ "'"))
      else match st.seen.flag name with
        | .ok s => .next { st with seen := s } rest
        | .error e => .done (.usage e)
    | some (_, _, true) =>
      let taken : Option (String × List String) := match inline, rest with
        | some v, _ => some (v, rest)
        | none, v :: more => if looksLikeOption v || v == "--" then none else some (v, more)
        | none, [] => none
      match taken with
      | none => .done (.usage ("a value is required for '--" ++ name ++ "'"))
      | some (v, more) =>
        match st.seen.value name v with
        | .ok s => .next { st with seen := s } more
        | .error e => .done (.usage e)

/-- A group of short options, as in `-vf json`. -/
def shortOptions (st : ArgsState) : List Char → List String → Step
  | [], rest => .next st rest
  | c :: cs, rest =>
    if c == 'h' then .done (.help (match st.command with
      | some cmd => commandHelp st.configVar false cmd
      | none => mainHelp st.configVar))
    else if c == 'V' && st.command.isNone then .done .version
    else
      match (optionsOf st.command).find? (·.2.1 == some c) with
      | none => .done (.usage ("unexpected argument '-" ++ c.toString ++ "'"))
      | some (name, _, false) =>
        match st.seen.flag name with
        | .ok s => shortOptions { st with seen := s } cs rest
        | .error e => .done (.usage e)
      | some (name, _, true) =>
        let inline := match cs with
          | '=' :: more => String.ofList more
          | more => String.ofList more
        let taken : Option (String × List String) :=
          if !cs.isEmpty then some (inline, rest)
          else match rest with
            | v :: more => if looksLikeOption v || v == "--" then none else some (v, more)
            | [] => none
        match taken with
        | none => .done (.usage ("a value is required for '--" ++ name ++ "'"))
        | some (v, more) =>
          match st.seen.value name v with
          | .ok s => .next { st with seen := s } more
          | .error e => .done (.usage e)

/-- The help asked for by `help [COMMAND]`. -/
def helpFor (configVar : Option String) : List String → ArgsOutcome
  | [] => .help (mainHelp configVar)
  | [name] => match CommandName.ofName? name with
    | some c => .help (commandHelp configVar true c)
    | none => .usage ("unrecognized subcommand '" ++ name ++ "'")
  | _ => .usage "too many arguments for help"

/-- The invocation once all arguments are read. -/
def finish (st : ArgsState) : ArgsOutcome :=
  let configIn (s : Seen) := (s.values.find? (·.1 == "config")).map (·.2)
  let config := (configIn st.seen).orElse fun _ => configIn st.before
  let verbose := st.seen.flags.contains "verbose" || st.before.flags.contains "verbose"
  let inv (c : Command) : ArgsOutcome := .run { verbose, config, command := c }
  match st.command with
  | none => .usage "a subcommand is required"
  | some .check =>
    if st.seen.files.isEmpty then .usage "the following required arguments were not provided: <FILES>..."
    else
      let format := ((st.seen.values.find? (·.1 == "format")).bind (OutputFormat.ofName? ·.2)).getD .text
      inv (.check st.seen.files format ((st.seen.values.find? (·.1 == "rules")).map (·.2)))
  | some .listRules => inv .listRules
  | some .init => inv (.init (st.seen.flags.contains "force"))
  | some .help => .help (mainHelp st.configVar)

/-- One argument that is not an option: the command's name, or a file. -/
def positional (st : ArgsState) (arg : String) (rest : List String) : Step :=
  match st.command with
  | none =>
    match CommandName.ofName? arg with
    | some .help => .done (helpFor st.configVar rest)
    | some c => .next { st with command := some c, before := st.seen, seen := {} } rest
    | none => .done (.usage ("unrecognized subcommand '" ++ arg ++ "'"))
  | some .check =>
    if arg.isEmpty then .done (.usage "a value is required for '<FILES>...'")
    else .next { st with seen := { st.seen with files := st.seen.files ++ [arg] } } rest
  | some _ => .done (.usage ("unexpected argument '" ++ arg ++ "'"))

/-- Read arguments from a state. -/
def readFrom (st : ArgsState) : List String → ArgsOutcome
  | [] => finish st
  | arg :: rest =>
    if arg == "--" then
      match st.command with
      | some .check =>
        if rest.any (·.isEmpty) then .usage "a value is required for '<FILES>...'"
        else finish { st with seen := { st.seen with files := st.seen.files ++ rest } }
      | _ => match rest with
        | [] => finish st
        | a :: _ => .usage ("unexpected argument '" ++ a ++ "'")
    else
      let step :=
        if arg.startsWith "--" then longOption st (String.ofList (arg.toList.drop 2)) rest
        else if looksLikeOption arg then shortOptions st (arg.toList.drop 1) rest
        else positional st arg rest
      match step with
      | .done o => o
      | .next st' rest' =>
        if rest'.length < rest.length + 1 then readFrom st' rest' else finish st'
termination_by args => args.length

/-- What the arguments (without the program name) ask for, given the value
of `OAS_LINT_CONFIG`. -/
def readArgs (configVar : Option String) (args : List String) : ArgsOutcome :=
  readFrom { configVar } args

end OpenApiLint
