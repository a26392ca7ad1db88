import OpenApiLint.Toml.Grammar
/-!
# Building the tables of a TOML document

The statements of a document are applied in order to a root table.  A header
closes the table being filled, putting it into place, and opens the one it
names; `key = value` lines go into the open table, dotted keys making
*dotted* sub-tables on the way.  Tables that a longer header or key passes
through are made *implicit*.  The rules of TOML 1.0 follow:

* a key may be given once in a table;
* a header may name a table only once, unless all earlier mentions were
  implicit and not dotted;
* a dotted key may not reach into a table defined by a header, nor a header
  into a table made by dotted keys;
* `[[a]]` adds a table to the array of tables `a`, and keys and headers below
  `a` go into its last table;
* nothing may pass through a value.

## Main definitions

* `Toml.Assembly`, `Toml.Assembly.apply`, `Toml.Assembly.finish`.
-/

namespace OpenApiLint.Toml

/-- Descend along a key path from a table, making implicit tables (dotted
when `dotted`) where nothing stands, entering the last table of an array of
tables, and apply `f` to the table reached. -/
def descend {α : Type} (dotted : Bool) (f : Table → Except Cause (Table × α)) (seen : List Key) :
    Table → List Key → Except Cause (Table × α)
  | t, [] => f t
  | t, k :: rest =>
    match (t.get? k.name).getD (.table [] true dotted none) with
    | .table es imp dot sp =>
      if dotted && !imp then .error (.duplicateKey k.name none)
      else do
        let (t', a) ← descend dotted f (seen ++ [k]) ⟨es, imp, dot, sp⟩ rest
        pure (t.put k t'.toNode, a)
    | .tables items sp =>
      let lastTable : Table := match items.getLast? with
        | some (.table es imp dot sp') => ⟨es, imp, dot, sp'⟩
        | _ => {}
      do
        let (t', a) ← descend dotted f (seen ++ [k]) lastTable rest
        pure (t.put k (.tables (items.dropLast ++ [t'.toNode]) sp), a)
    | other => .error (.extendsNonTable ((seen ++ [k]).map (·.name)) other.typeName)

/-- How a key is spelled in a message about a header: bare when it can be,
else as a basic string. -/
def keyRepr (name : String) : String :=
  let bytes := name.toUTF8.toList
  if !bytes.isEmpty && bytes.all isBareKeyByte then name
  else
    let escape (c : Char) : String :=
      match c with
      | '\x08' => "\\b"
      | '\t' => "\\t"
      | '\n' => "\\n"
      | '\x0c' => "\\f"
      | '\r' => "\\r"
      | '"' => "\\\""
      | '\\' => "\\\\"
      | c =>
        if c.toNat ≤ 0x1F || c.toNat == 0x7F then
          let hex := Nat.toDigits 16 c.toNat |>.map Char.toUpper
          "\\u" ++ String.ofList (List.replicate (4 - hex.length) '0' ++ hex)
        else c.toString
    "\"" ++ String.join (name.toList.map escape) ++ "\""

/-- A header naming a table that already exists. -/
def duplicateHeader (init : List Key) (last : Key) : Cause :=
  .duplicateKey (keyRepr last.name) (some (init.map (·.name)))

/-- The span from the first to the last table of an array of tables. -/
def tablesSpan (items : List Node) : Option Span :=
  match items.head?.bind Node.span?, items.getLast?.bind Node.span? with
  | some a, some b => some ⟨a.start, b.stop⟩
  | _, _ => none

/-- The state of building: the root, the open table, whether it belongs to an
array of tables, and the path of its header (empty for the root). -/
structure Assembly where
  root : Table := {}
  current : Table := { span := some ⟨0, 0⟩ }
  inArray : Bool := false
  path : List Key := []
  deriving Inhabited

namespace Assembly

/-- Put the open table into place and open nothing. -/
def close (a : Assembly) : Except Cause Assembly :=
  let table := a.current
  let done : Assembly := { a with current := {}, path := [] }
  match a.path.reverse with
  | [] => pure { done with root := table }
  | last :: initRev =>
    let init := initRev.reverse
    if a.inArray then do
      let (root, _) ← descend false (fun parent =>
        match parent.get? last.name with
        | some (.tables items _) =>
          let items := items ++ [table.toNode]
          .ok (parent.put last (.tables items (tablesSpan items)), ())
        | none =>
          let items := [table.toNode]
          .ok (parent.put last (.tables items (tablesSpan items)), ())
        | some _ => .error (duplicateHeader init last)) [] a.root init
      pure { done with root := root }
    else do
      let (root, _) ← descend false (fun parent =>
        match parent.get? last.name with
        | some (.table _ true _ _) => .ok (parent.put last table.toNode, ())
        | some _ => .error (duplicateHeader init last)
        | none => .ok (parent.put last table.toNode, ())) [] a.root init
      pure { done with root := root }

/-- Open the table of a header `[path]`. -/
def openTable (a : Assembly) (path : List Key) (span : Span) : Except Cause Assembly :=
  match path.reverse with
  | [] => pure a
  | last :: initRev => do
    let init := initRev.reverse
    let (root, found) ← descend false (fun parent =>
      match parent.get? last.name with
      | some n => .ok (parent.remove last.name, some n)
      | none => .ok (parent, none)) [] a.root init
    let entries ← match found with
      | some (.table es true false _) => pure es
      | some _ => .error (duplicateHeader init last)
      | none => pure []
    pure { root, current := { entries, span := some span }, inArray := false, path }

/-- Open a new table of the array of tables of a header `[[path]]`. -/
def openArrayTable (a : Assembly) (path : List Key) (span : Span) : Except Cause Assembly :=
  match path.reverse with
  | [] => pure a
  | last :: initRev => do
    let init := initRev.reverse
    let (root, _) ← descend false (fun parent =>
      match parent.get? last.name with
      | some (.tables ..) => .ok (parent, ())
      | some _ => .error (duplicateHeader init last)
      | none => .ok (parent.put last (.tables [] none), ())) [] a.root init
    pure { root, current := { span := some span }, inArray := true, path }

/-- Add `path.key = value` to the open table. -/
def addPair (a : Assembly) (path : List Key) (k : Key) (v : Node) : Except Cause Assembly := do
  let span := match a.current.span, v.span? with
    | some s, some e => some ⟨s.start, e.stop⟩
    | s, _ => s
  let (current, _) ← descend true (fun table =>
    if table.dotted == path.isEmpty then .error (.duplicateKey k.name none)
    else match table.get? k.name with
      | some _ => .error (.duplicateKey k.name (some (a.path.map (·.name))))
      | none => .ok (table.put k v, ())) [] { a.current with span } path
  pure { a with current }

/-- Apply one statement. -/
def apply (a : Assembly) : Statement → Except Cause Assembly
  | .pair path k v _ => a.addPair path k v
  | .header path span => do (← a.close).openTable path span
  | .arrayHeader path span => do (← a.close).openArrayTable path span

/-- Close the last table and give the root. -/
def finish (a : Assembly) : Except Cause Table := do
  return (← a.close).root

end Assembly

end OpenApiLint.Toml
