import OpenApiLint.Text.WhiteSpace
import OpenApiLint.Text.Naming
import OpenApiLint.Number.Binary64
import OpenApiLint.Number.Shortest
import OpenApiLint.Number.Render
import OpenApiLint.KeyedList
import OpenApiLint.Value
import OpenApiLint.Value.Print
import OpenApiLint.Document.Basic
import OpenApiLint.Lint.Violation
import OpenApiLint.Lint.Location
import OpenApiLint.Lint.Rule
import OpenApiLint.Lint.Config
import OpenApiLint.Lint.Validator
import OpenApiLint.PathName
import OpenApiLint.SourceFormat
import OpenApiLint.Text.Utf8
import OpenApiLint.Text.Printable
import OpenApiLint.Text.Width
import OpenApiLint.Text.LineBreak
import OpenApiLint.Document.Decoder
import OpenApiLint.Json.Reader
import OpenApiLint.Json.Decoder
import OpenApiLint.Document.Parse
import OpenApiLint.Document.Encode
import OpenApiLint.Yaml.Token
import OpenApiLint.Yaml.Scanner
import OpenApiLint.Yaml.Parser
import OpenApiLint.Yaml.Scalar
import OpenApiLint.Yaml.Decoder
import OpenApiLint.Number.DecimalText
import OpenApiLint.Toml.Tree
import OpenApiLint.Toml.Failure
import OpenApiLint.Toml.Cursor
import OpenApiLint.Toml.Lexical
import OpenApiLint.Toml.Grammar
import OpenApiLint.Toml.Assembly
import OpenApiLint.Toml.Document
import OpenApiLint.Lint.Config.Read
import OpenApiLint.Lint.Session
import OpenApiLint.Cli.ErrorChain
import OpenApiLint.Cli.Host
import OpenApiLint.Cli.Store
import OpenApiLint.Cli.Output
import OpenApiLint.Cli.Args
import OpenApiLint.Cli.Diagnostic
import OpenApiLint.Cli.Run
import OpenApiLint.SpecCheck
import OpenApiLint.Main
import OpenApiLint.Proofs.Validate
import OpenApiLint.Proofs.Restrict
import OpenApiLint.Proofs.CheckExit
import OpenApiLint.Proofs.Utf8
import OpenApiLint.Proofs.JsonRead
import OpenApiLint.Proofs.KeyedList
import OpenApiLint.Proofs.JsonData
import OpenApiLint.Proofs.DocumentRead
import OpenApiLint.Proofs.DecoderSound
import OpenApiLint.Proofs.JsonSound
import OpenApiLint.Proofs.YamlSound
import OpenApiLint.Proofs.RoundTrip
import OpenApiLint.Proofs.Naming
import OpenApiLint.Proofs.RuleFindings
import OpenApiLint.Proofs.Select
import OpenApiLint.Proofs.ParseSteps
import OpenApiLint.Proofs.MapRead
import OpenApiLint.Proofs.Replace
import OpenApiLint.Proofs.GitHubOutput
import OpenApiLint.Proofs.ResultCounts
import OpenApiLint.Proofs.BuildOutcome
import OpenApiLint.Proofs.LineColumn
