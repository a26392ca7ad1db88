import OpenApiLint.Cli.Run
/-!
# The command line on the real system

The program's entry point: it gives a run the real file system, the
variables the run reads and the working directory, then prints what the run
printed and exits with its code.  A system refusal is worded as the system
words it, followed by its error number.
-/

namespace OpenApiLint

/-- A system refusal: its description and error number. -/
def systemErrorText (e : IO.Error) : String :=
  match e with
  | .alreadyExists _ c d | .otherError c d | .resourceBusy c d | .resourceVanished c d
  | .unsupportedOperation c d | .hardwareFault c d | .unsatisfiedConstraints c d
  | .illegalOperation c d | .protocolError c d | .timeExpired c d | .interrupted _ c d
  | .noFileOrDirectory _ c d | .invalidArgument _ c d | .permissionDenied _ c d
  | .resourceExhausted _ c d | .inappropriateType _ c d | .noSuchThing _ c d =>
    d ++ " (os error " ++ toString c ++ ")"
  | other => toString other

/-- The real file system as the host of a run. -/
def systemHost : Host IO where
  readFile path := do
    try pure (.ok (← IO.FS.readBinFile path)) catch e => pure (.error (systemErrorText e))
  present path := do
    try
      let _ ← IO.FS.Handle.mk path .read
      pure true
    catch _ => pure false
  writeFile path text := do
    try
      IO.FS.writeFile path text
      pure (.ok ())
    catch e => pure (.error (systemErrorText e))
  appendFile path text := do
    try
      let h ← IO.FS.Handle.mk path .append
      h.putStr text
      pure (.ok ())
    catch e => pure (.error (systemErrorText e))

/-- The variables a run reads. -/
def variablesRead : List String := ["HOME", "OAS_LINT_CONFIG", "OAS_LINT_CONFIG_DIR", "GITHUB_STEP_SUMMARY"]

end OpenApiLint

open OpenApiLint in
/-- Run the command line. -/
def main (args : List String) : IO UInt32 := do
  let vars ← variablesRead.filterMapM fun n => do return (← IO.getEnv n).map (n, ·)
  let workDir := (← IO.currentDir).toString
  let outcome ← runCommandLine systemHost { vars, workDir } args
  IO.print outcome.stdout
  IO.eprint outcome.stderr
  pure outcome.exitCode.toUInt32
