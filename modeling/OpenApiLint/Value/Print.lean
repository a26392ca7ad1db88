import OpenApiLint.Value
import OpenApiLint.Number.Render
/-!
# Writing data values

The data text of a value.  Strings are quoted with the short escapes for
quote, backslash, backspace, form feed, newline, carriage return and tab, and
`\u00XX` (lowercase hex) for the other control characters below U+0020;
everything else, DEL and non-ASCII included, is written as is.

Two layouts: compact, with no space at all, and pretty, with two spaces of
indent per level, `": "` after a key, and `[]`/`{}` for empty containers.

## Main definitions

* `quoteData` — a quoted string.
* `Value.compact`, `Value.pretty` — the two layouts.
-/

namespace OpenApiLint

open Number

/-- A hex digit in lowercase. -/
def hexDigit (n : Nat) : Char := if n < 10 then Char.ofNat (48 + n) else Char.ofNat (87 + n)

/-- The escaped form of one character inside a quoted string. -/
def escapeDataChar (c : Char) : List Char :=
  match c with
  | '"' => ['\\', '"']
  | '\\' => ['\\', '\\']
  | '\n' => ['\\', 'n']
  | '\r' => ['\\', 'r']
  | '\t' => ['\\', 't']
  | _ =>
    if c.toNat = 8 then ['\\', 'b']
    else if c.toNat = 12 then ['\\', 'f']
    else if c.toNat < 0x20 then ['\\', 'u', '0', '0', hexDigit (c.toNat / 16), hexDigit (c.toNat % 16)]
    else [c]

/-- A string in double quotes, escaped. -/
def quoteData (s : String) : String :=
  String.ofList ('"' :: (s.toList.flatMap escapeDataChar ++ ['"']))

/-- The text of a number value. -/
def Value.numberText : Value → String
  | .int n => toString n
  | .float x => x.dataText
  | _ => ""

/-! Both layouts write onto the text already written, so that each piece is
copied once and a long text is written in time linear in its length. -/

mutual
/-- The text written so far, followed by the compact text of a value. -/
def Value.writeCompact (out : String) : Value → String
  | .null => out ++ "null"
  | .bool b => out ++ (if b then "true" else "false")
  | .int n => out ++ toString n
  | .float x => out ++ x.dataText
  | .str s => out ++ quoteData s
  | .arr items => Value.writeItems (out ++ "[") items ++ "]"
  | .obj entries => Value.writeEntries (out ++ "\x7b") entries ++ "\x7d"

/-- The compact text of array items, comma-separated, after `out`. -/
def Value.writeItems (out : String) : List Value → String
  | [] => out
  | [v] => v.writeCompact out
  | v :: rest => Value.writeItems (v.writeCompact out ++ ",") rest

/-- The compact text of object entries, comma-separated, after `out`. -/
def Value.writeEntries (out : String) : List (String × Value) → String
  | [] => out
  | [(k, v)] => v.writeCompact (out ++ quoteData k ++ ":")
  | (k, v) :: rest => Value.writeEntries (v.writeCompact (out ++ quoteData k ++ ":") ++ ",") rest
end

/-- The compact text of a value. -/
def Value.compact (v : Value) : String := v.writeCompact ""

/-- Two spaces per level. -/
def indentText (level : Nat) : String := String.ofList (List.replicate (2 * level) ' ')

mutual
/-- The text written so far, followed by the pretty text of a value whose
first line is already indented to `level`. -/
def Value.writePretty (out : String) (level : Nat) : Value → String
  | .arr [] => out ++ "[]"
  | .obj [] => out ++ "\x7b\x7d"
  | .arr items =>
    Value.writePrettyItems (out ++ "[\n") (level + 1) items ++ "\n" ++ indentText level ++ "]"
  | .obj entries =>
    Value.writePrettyEntries (out ++ "\x7b\n") (level + 1) entries ++ "\n" ++ indentText level ++ "\x7d"
  | v => v.writeCompact out

/-- Pretty array items, one per line, after `out`. -/
def Value.writePrettyItems (out : String) (level : Nat) : List Value → String
  | [] => out
  | [v] => v.writePretty (out ++ indentText level) level
  | v :: rest => Value.writePrettyItems (v.writePretty (out ++ indentText level) level ++ ",\n") level rest

/-- Pretty object entries, one per line, after `out`. -/
def Value.writePrettyEntries (out : String) (level : Nat) : List (String × Value) → String
  | [] => out
  | [(k, v)] => v.writePretty (out ++ indentText level ++ quoteData k ++ ": ") level
  | (k, v) :: rest =>
    Value.writePrettyEntries
      (v.writePretty (out ++ indentText level ++ quoteData k ++ ": ") level ++ ",\n") level rest
end

/-- The pretty text of a value. -/
def Value.pretty (v : Value) : String := v.writePretty "" 0

end OpenApiLint
