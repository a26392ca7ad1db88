/-!
# Path names

The last component of a slash-separated path name and its extension.  Empty
components (from doubled or trailing slashes) and `.` components after the
first are not components; a path ending in `..` or `.` has no file name.  The
extension is what follows the last dot of the file name, unless that dot is
its first character.

## Main definitions

* `PathName.fileName?`, `PathName.extension?`.
* `PathName.join` — one path name after another.
-/

namespace OpenApiLint.PathName

/-- The components of a path name, `.` kept only in first place. -/
def components (path : String) : List String :=
  let parts := path.splitOn "/"
  let (_, comps) := parts.foldl (fun (acc : Nat × List String) p =>
    let (i, cs) := acc
    if p.isEmpty || (p == "." && i ≠ 0) then (i + 1, cs) else (i + 1, cs ++ [p])) (0, [])
  comps

/-- The file name: the last component, when it is an ordinary one. -/
def fileName? (path : String) : Option String :=
  match (components path).getLast? with
  | some c => if c == "." || c == ".." || path.startsWith "/" && c.isEmpty then none else some c
  | none => none

/-- The extension of a file name: after its last dot, unless the only dot
starts the name. -/
def extensionOf? (name : String) : Option String :=
  if name == ".." then none
  else
    match (name.splitOn ".").reverse with
    | [] | [_] => none
    | ext :: before =>
      let stem := ".".intercalate before.reverse
      if stem.isEmpty then none else some ext

/-- The extension of a path name's file name. -/
def extension? (path : String) : Option String := (fileName? path).bind extensionOf?

/-- Whether a path name starts at the root. -/
def isAbsolute (path : String) : Bool := path.startsWith "/"

/-- A path name followed by another: the second alone when it is absolute,
else the two with a slash between, unless the first is empty or already ends
in one. -/
def join (base path : String) : String :=
  if isAbsolute path || base.isEmpty then path
  else if base.endsWith "/" then base ++ path
  else base ++ "/" ++ path

end OpenApiLint.PathName
