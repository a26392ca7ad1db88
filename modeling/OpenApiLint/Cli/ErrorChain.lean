/-!
# Errors with their causes

A command that fails reports an error together with the chain of its causes:
the outermost message first, then the cause of each message before.  It is
printed as `Error: <message>`; when there are causes, an empty line and
`Caused by:` follow, then each cause on a new line indented by four spaces.
With two causes or more, each is numbered instead (`    0: `), and its later
lines are indented to match the number.

## Main definitions

* `ErrorChain`, `ErrorChain.render`.
-/

namespace OpenApiLint

/-- An error and the chain of its causes, outermost first. -/
structure ErrorChain where
  message : String
  causes : List String := []
  deriving Inhabited

namespace ErrorChain

/-- A message with a cause of its own; the cause's chain follows it. -/
def within (message : String) (cause : ErrorChain) : ErrorChain :=
  { message, causes := cause.message :: cause.causes }

/-- A text whose first line follows `first` and whose later lines follow `rest`. -/
def indented (first rest text : String) : String :=
  match text.splitOn "\n" with
  | [] => first
  | line :: more => first ++ line ++ String.join (more.map fun l => "\n" ++ rest ++ l)

/-- A number right-aligned in five columns. -/
def numberColumn (n : Nat) : String :=
  let s := toString n
  String.ofList (List.replicate (5 - s.length) ' ') ++ s

/-- The printed form of an error, ending in a line feed. -/
def render (e : ErrorChain) : String :=
  let causes := match e.causes with
    | [] => ""
    | [c] => "\n\nCaused by:\n" ++ indented "    " "    " c
    | cs => "\n\nCaused by:" ++ String.join (cs.zipIdx.map fun (c, n) =>
        "\n" ++ indented (numberColumn n ++ ": ") "       " c)
  "Error: " ++ e.message ++ causes ++ "\n"

end ErrorChain

end OpenApiLint
