import OpenApiLint.Text.Utf8
/-!
# What a run needs from its system

A run of the command line reads files, asks whether a path exists, and writes
or appends to files.  These four effects are all it needs of the system it
runs on; a `Host` supplies them in some monad, so the same run works on the
real file system and on files held in memory.  Paths are passed as the run
names them, a relative path being taken from the working directory.  A
refusal is the system's text for it, such as
`No such file or directory (os error 2)`.

The environment variables and the working directory are plain data.

## Main definitions

* `Host` — the effects of a run.
* `Host.readText` — a file's text, refused when it is not UTF-8.
* `Environment` — variables and working directory.
-/

namespace OpenApiLint

/-- The effects a run of the command line needs, in a monad `m`. -/
structure Host (m : Type → Type) where
  /-- The bytes of a file, or the system's refusal. -/
  readFile : String → m (Except String ByteArray)
  /-- Whether a file or directory is at a path. -/
  present : String → m Bool
  /-- Replace a file's contents, making the file if needed. -/
  writeFile : String → String → m (Except String Unit)
  /-- Add to the end of a file, making it if needed. -/
  appendFile : String → String → m (Except String Unit)

/-- The refusal for a file that is not UTF-8 text. -/
def notUtf8 : String := "stream did not contain valid UTF-8"

/-- The text of a file. -/
def Host.readText {m : Type → Type} [Monad m] (host : Host m) (path : String) :
    m (Except String String) := do
  match ← host.readFile path with
  | .error e => pure (.error e)
  | .ok bytes =>
    match Text.decodeUtf8? bytes.toList with
    | some s => pure (.ok s)
    | none => pure (.error notUtf8)

/-- The environment of a run: its variables and its working directory. -/
structure Environment where
  vars : List (String × String) := []
  workDir : String
  deriving Inhabited

/-- The value of a variable, if it is set. -/
def Environment.get? (env : Environment) (name : String) : Option String :=
  (env.vars.find? (·.1 == name)).map (·.2)

end OpenApiLint
