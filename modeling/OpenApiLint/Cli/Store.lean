import OpenApiLint.Cli.Host
/-!
# Files held in memory

A store is a set of files, each at an absolute path, together with some
directories that exist even when empty.  A directory exists when it is one of
those, leads to one, or holds a file.  Paths are read the usual way: a path
starting with `/` from the root, any other from the working directory,
component by component as the system does: every step on the way must be a
directory that exists, empty and `.` components are skipped, `..` goes up,
and a trailing slash asks for a directory.

Refusals are the system's texts: a missing path, a directory where a file
was wanted, and a file where a directory was wanted.

## Main definitions

* `Store` — files and directories.
* `Store.host` — a store as the host of a run, in the state monad.
-/

namespace OpenApiLint

/-- Components of an absolute path. -/
abbrev Place := List String

/-- Files in memory. -/
structure Store where
  files : List (Place × ByteArray) := []
  /-- Directories that exist even when empty. -/
  dirs : List Place := []
  /-- Where relative paths start. -/
  workDir : Place := []
  deriving Inhabited

/-- The text of a missing path. -/
def noSuchFile : String := "No such file or directory (os error 2)"

/-- The text of a directory where a file was wanted. -/
def isADirectory : String := "Is a directory (os error 21)"

/-- The text of a file where a directory was wanted. -/
def notADirectory : String := "Not a directory (os error 20)"

/-- The components of a path name from a starting place. -/
def Place.follow (start : Place) (path : String) : Place :=
  let base := if path.startsWith "/" then [] else start
  (path.splitOn "/").foldl (fun acc part =>
    if part.isEmpty || part == "." then acc
    else if part == ".." then acc.dropLast
    else acc ++ [part]) base

/-- The components of a path name, split into a place. -/
def Place.ofPath (path : String) : Place := Place.follow [] path

namespace Store

/-- The contents of the file at a place. -/
def fileAt? (s : Store) (p : Place) : Option ByteArray :=
  (s.files.find? (·.1 == p)).map (·.2)

/-- Whether a directory is at a place. -/
def isDir (s : Store) (p : Place) : Bool :=
  s.dirs.any (p.isPrefixOf ·) || s.files.any fun (f, _) => p.isPrefixOf f && p != f

/-- What a path name leads to. -/
inductive Target where
  | file (p : Place)
  | dir (p : Place)
  /-- Nothing is at the last component, whose parent is a directory. -/
  | missing (p : Place)
  /-- The way there is blocked; the system's text. -/
  | refused (reason : String)
  deriving Inhabited, DecidableEq

/-- Follow the components of a path name from a directory, one at a time:
each component but the last must be a directory that exists (a file there is
"not a directory", nothing there "no such file"), `..` goes up from a
directory that exists, and an empty last component, left by a trailing
slash, asks for a directory. -/
def walk (s : Store) (cur : Place) : List String → Target
  | [] => .dir cur
  | part :: rest =>
    if part.isEmpty || part == "." then walk s cur rest
    else if part == ".." then walk s cur.dropLast rest
    else
      let next := cur ++ [part]
      if s.isDir next then walk s next rest
      else if (s.fileAt? next).isSome then
        if rest.isEmpty then .file next else .refused notADirectory
      else if rest.isEmpty then .missing next
      else .refused noSuchFile

/-- What a path leads to: from the root when it starts with `/`, else from
the working directory.  The empty path leads nowhere. -/
def resolve (s : Store) (path : String) : Target :=
  if path.isEmpty then .refused noSuchFile
  else s.walk (if path.startsWith "/" then [] else s.workDir) (path.splitOn "/")

/-- Read a file. -/
def read (s : Store) (path : String) : Except String ByteArray :=
  match s.resolve path with
  | .file p => match s.fileAt? p with
    | some bytes => .ok bytes
    | none => .error noSuchFile
  | .dir _ => .error isADirectory
  | .missing _ => .error noSuchFile
  | .refused reason => .error reason

/-- Whether a file or directory is at a path. -/
def present (s : Store) (path : String) : Bool :=
  match s.resolve path with
  | .file _ | .dir _ => true
  | .missing _ | .refused _ => false

/-- Put bytes at a path, given what the file held before (if anything); a
missing file is created in its directory. -/
def put (s : Store) (path : String) (update : Option ByteArray → ByteArray) :
    Except String Store :=
  match s.resolve path with
  | .file p =>
    .ok { s with files := s.files.map fun (f, b) => if f == p then (f, update (some b)) else (f, b) }
  | .missing p => .ok { s with files := s.files ++ [(p, update none)] }
  | .dir _ => .error isADirectory
  | .refused reason => .error reason

/-- The files under a directory, by path relative to it, sorted. -/
def filesUnder (s : Store) (dir : Place) : List (String × ByteArray) :=
  let inside := s.files.filterMap fun (f, b) =>
    if dir.isPrefixOf f && f.length > dir.length then some ("/".intercalate (f.drop dir.length), b) else none
  inside.mergeSort fun a b => decide (a.1 ≤ b.1)

/-- A store as the host of a run. -/
def host : Host (StateM Store) where
  readFile path := do return (← get).read path
  present path := do return (← get).present path
  writeFile path text := do
    match (← get).put path fun _ => text.toUTF8 with
    | .ok s => set s; pure (.ok ())
    | .error e => pure (.error e)
  appendFile path text := do
    match (← get).put path fun old => (old.getD ByteArray.empty) ++ text.toUTF8 with
    | .ok s => set s; pure (.ok ())
    | .error e => pure (.error e)

end Store

end OpenApiLint
