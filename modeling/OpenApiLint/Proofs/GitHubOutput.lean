import Mathlib
import OpenApiLint.Cli.Output
import OpenApiLint.Proofs.Replace
/-!
# Reading back the GitHub form

The GitHub form prints one workflow command per violation and can append a
Markdown summary.  Both put user text (file names, locations, messages) inside
a syntax of their own, so both escape it, and what matters is that a reader of
that syntax gets the text back.

A workflow command is `::<command> file=<F>,title=<T>::<data>`.  The runner
cuts the properties at `,` and each at its first `=`, and unescapes `%25`,
`%0D`, `%0A`, `%3A` and `%2C` left to right.  Escaping `%` first makes every
`%` of the output the start of an escape, so that reading inverts writing; and
properties also escape `:` and `,`, so the delimiters stay delimiters.

A summary row is `| <file> | <severity> | <code> | <location> | <message> |`.
A Markdown reader cuts it at every pipe that no backslash stands before and
reads `\|` as `|`.  Cell escaping writes `|` as `\|` and a line feed as a
space, so the row has its five cells and no line feed.  A carriage return,
which also ends a Markdown line, is not escaped, and a row keeps every one the
texts hold.

## Main definitions

* `dataEscape`, `propertyEscape`, `cellEscape` — the escapes, per character.
* `decodeCommandText` — the runner's unescaping.
* `rowCells`, `unescapePipes` — a Markdown reader's view of a table row.

## Main statements

* `toList_escapeData`, `toList_escapeProperty`, `toList_escapeCell` — the
  escapes are substitutions of characters.
* `decodeCommandText_escapeProperty` — the runner reads a property back.
* `annotation_reads_back` — a workflow command is one line and reads back.
* `stepSummary_reads_back` — the summary lists every violation, one row each,
  and each row reads back.
-/

namespace OpenApiLint

/-! ## The escapes, character by character -/

/-- What data escaping writes for one character. -/
def dataEscape (c : Char) : List Char :=
  if c = '%' then ['%', '2', '5'] else if c = '\r' then ['%', '0', 'D']
  else if c = '\n' then ['%', '0', 'A'] else [c]

/-- What property escaping writes for one character. -/
def propertyEscape (c : Char) : List Char :=
  if c = ':' then ['%', '3', 'A'] else if c = ',' then ['%', '2', 'C'] else dataEscape c

/-- What cell escaping writes for one character. -/
def cellEscape (c : Char) : List Char :=
  if c = '|' then ['\\', '|'] else if c = '\n' then [' '] else [c]

theorem toList_escapeData (s : String) : (escapeData s).toList = s.toList.flatMap dataEscape := by
  have h25 : "%25".toList = ['%', '2', '5'] := rfl
  have h0D : "%0D".toList = ['%', '0', 'D'] := rfl
  have h0A : "%0A".toList = ['%', '0', 'A'] := rfl
  simp only [escapeData, toList_replace_char, List.flatMap_assoc, h25, h0D, h0A]
  congr 1
  funext c
  -- the three replacements touch three different characters
  by_cases h1 : c = '%' <;> by_cases h2 : c = '\r' <;> by_cases h3 : c = '\n' <;>
    simp_all [dataEscape]

theorem toList_escapeProperty (s : String) :
    (escapeProperty s).toList = s.toList.flatMap propertyEscape := by
  have h3A : "%3A".toList = ['%', '3', 'A'] := rfl
  have h2C : "%2C".toList = ['%', '2', 'C'] := rfl
  simp only [escapeProperty, toList_replace_char, toList_escapeData, List.flatMap_assoc, h3A, h2C]
  congr 1
  funext c
  by_cases h1 : c = ':' <;> by_cases h2 : c = ',' <;> simp_all [propertyEscape, dataEscape]
  split_ifs <;> simp_all

theorem toList_escapeCell (s : String) : (escapeCell s).toList = s.toList.flatMap cellEscape := by
  simp only [escapeCell, toList_replace_char, List.flatMap_assoc]
  congr 1
  funext c
  by_cases h1 : c = '|' <;> by_cases h2 : c = '\n' <;> simp_all [cellEscape]

/-! ## Workflow commands -/

/-- The runner's reading of escaped command text, left to right: `%25`, `%0D`,
`%0A`, `%3A` and `%2C` stand for `%`, carriage return, line feed, `:` and `,`;
every other character stands for itself. -/
def decodeCommandText : List Char → List Char
  | '%' :: '2' :: '5' :: rest => '%' :: decodeCommandText rest
  | '%' :: '0' :: 'D' :: rest => '\r' :: decodeCommandText rest
  | '%' :: '0' :: 'A' :: rest => '\n' :: decodeCommandText rest
  | '%' :: '3' :: 'A' :: rest => ':' :: decodeCommandText rest
  | '%' :: '2' :: 'C' :: rest => ',' :: decodeCommandText rest
  | c :: rest => c :: decodeCommandText rest
  | [] => []

theorem decodeCommandText_cons_of_ne {c : Char} (h : c ≠ '%') (rest : List Char) :
    decodeCommandText (c :: rest) = c :: decodeCommandText rest := by
  rw [decodeCommandText.eq_def]
  split <;> simp_all

theorem decodeCommandText_propertyEscape (c : Char) (rest : List Char) :
    decodeCommandText (propertyEscape c ++ rest) = c :: decodeCommandText rest := by
  by_cases h1 : c = ':'
  · subst h1; simp [propertyEscape, decodeCommandText]
  by_cases h2 : c = ','
  · subst h2; simp [propertyEscape, decodeCommandText]
  by_cases h3 : c = '%'
  · subst h3; simp [propertyEscape, dataEscape, decodeCommandText]
  by_cases h4 : c = '\r'
  · subst h4; simp [propertyEscape, dataEscape, decodeCommandText]
  by_cases h5 : c = '\n'
  · subst h5; simp [propertyEscape, dataEscape, decodeCommandText]
  simp [propertyEscape, dataEscape, h1, h2, h3, h4, h5, decodeCommandText_cons_of_ne h3]

theorem decodeCommandText_dataEscape (c : Char) (rest : List Char) :
    decodeCommandText (dataEscape c ++ rest) = c :: decodeCommandText rest := by
  by_cases h1 : c = ':' ∨ c = ','
  · -- data leaves `:` and `,` alone, and they are read as themselves
    have h3 : c ≠ '%' := by rcases h1 with rfl | rfl <;> decide
    have hd : dataEscape c = [c] := by rcases h1 with rfl | rfl <;> rfl
    rw [hd, List.singleton_append, decodeCommandText_cons_of_ne h3]
  · have hp : propertyEscape c = dataEscape c := by
      simp only [not_or] at h1
      simp [propertyEscape, h1.1, h1.2]
    rw [← hp, decodeCommandText_propertyEscape]

/-- An escape that the runner reads back character by character is read back
on every text. -/
theorem decodeCommandText_flatMap {e : Char → List Char}
    (he : ∀ c rest, decodeCommandText (e c ++ rest) = c :: decodeCommandText rest) (l : List Char) :
    decodeCommandText (l.flatMap e) = l := by
  induction l with
  | nil => rfl
  | cons c cs ih => rw [List.flatMap_cons, he, ih]

/-- **The runner reads an escaped property back.** -/
theorem decodeCommandText_escapeProperty (s : String) :
    decodeCommandText (escapeProperty s).toList = s.toList := by
  rw [toList_escapeProperty]
  exact decodeCommandText_flatMap decodeCommandText_propertyEscape _

/-- The runner reads escaped data back. -/
theorem decodeCommandText_escapeData (s : String) :
    decodeCommandText (escapeData s).toList = s.toList := by
  rw [toList_escapeData]
  exact decodeCommandText_flatMap decodeCommandText_dataEscape _

/-- Escaped data has no line ending. -/
theorem not_mem_dataEscape (c : Char) : '\r' ∉ dataEscape c ∧ '\n' ∉ dataEscape c := by
  unfold dataEscape
  split_ifs <;> simp_all [eq_comm]

/-- An escaped property has no delimiter and no line ending. -/
theorem not_mem_propertyEscape (c : Char) :
    ':' ∉ propertyEscape c ∧ ',' ∉ propertyEscape c ∧ '\r' ∉ propertyEscape c ∧
      '\n' ∉ propertyEscape c := by
  unfold propertyEscape dataEscape
  split_ifs <;> simp_all [eq_comm]

theorem not_mem_escapeData (s : String) :
    '\r' ∉ (escapeData s).toList ∧ '\n' ∉ (escapeData s).toList := by
  simp only [toList_escapeData, List.mem_flatMap, not_exists, not_and]
  exact ⟨fun c _ => (not_mem_dataEscape c).1, fun c _ => (not_mem_dataEscape c).2⟩

theorem not_mem_escapeProperty (s : String) :
    ':' ∉ (escapeProperty s).toList ∧ ',' ∉ (escapeProperty s).toList ∧
      '\r' ∉ (escapeProperty s).toList ∧ '\n' ∉ (escapeProperty s).toList := by
  simp only [toList_escapeProperty, List.mem_flatMap, not_exists, not_and]
  exact ⟨fun c _ => (not_mem_propertyEscape c).1, fun c _ => (not_mem_propertyEscape c).2.1,
    fun c _ => (not_mem_propertyEscape c).2.2.1, fun c _ => (not_mem_propertyEscape c).2.2.2⟩

/-- The command word of a severity, and the command split at its delimiters. -/
theorem annotation_eq (file : String) (v : Violation) :
    ∃ command : String,
      annotation file v = "::" ++ command ++ " " ++
        ("file=" ++ escapeProperty file ++ ",title=" ++ escapeProperty v.code.label) ++ "::" ++
          escapeData (v.location ++ ": " ++ v.message) ∧
      (v.severity = .error ∧ command = "error" ∨ v.severity = .warning ∧ command = "warning" ∨
        v.severity = .info ∧ command = "notice") ∧
      '\r' ∉ command.toList ∧ '\n' ∉ command.toList := by
  obtain ⟨code, severity, location, message⟩ := v
  -- the line is compared as characters, where the literals fall apart
  cases severity with
  | error => exact ⟨"error", String.toList_injective (by simp [ annotation]), by simp, by decide, by decide⟩
  | warning =>
    exact ⟨"warning", String.toList_injective (by simp [ annotation]), by simp, by decide, by decide⟩
  | info => exact ⟨"notice", String.toList_injective (by simp [ annotation]), by simp, by decide, by decide⟩

/-- **A workflow command is one line and reads back.**  The line is
`::<command> <props>::<data>` with the command word of the severity; the
properties hold no `:`, cut at `,` into `file=F` and `title=T`, and the runner
reads `F`, `T` and the data back as the file, the code's identifier and
`<location>: <message>`. -/
theorem annotation_reads_back (file : String) (v : Violation) :
    '\r' ∉ ( annotation file v).toList ∧ '\n' ∉ ( annotation file v).toList ∧
    ∃ command props data : String,
      annotation file v = "::" ++ command ++ " " ++ props ++ "::" ++ data ∧
      (v.severity = .error ∧ command = "error" ∨ v.severity = .warning ∧ command = "warning" ∨
        v.severity = .info ∧ command = "notice") ∧
      ':' ∉ props.toList ∧
      ∃ F T : String,
        props.toList.splitOn ',' = [("file=" ++ F).toList, ("title=" ++ T).toList] ∧
        decodeCommandText F.toList = file.toList ∧
        decodeCommandText T.toList = v.code.label.toList ∧
        decodeCommandText data.toList = (v.location ++ ": " ++ v.message).toList := by
  obtain ⟨command, hline, hsev, hcr, hlf⟩ := annotation_eq file v
  have hF := not_mem_escapeProperty file
  have hT := not_mem_escapeProperty v.code.label
  have hD := not_mem_escapeData (v.location ++ ": " ++ v.message)
  -- the properties are `file=F`, a comma, and `title=T`, and neither part holds a comma
  have hprops : ("file=" ++ escapeProperty file ++ ",title=" ++ escapeProperty v.code.label).toList =
      ("file=" ++ escapeProperty file).toList ++ ',' :: ("title=" ++ escapeProperty v.code.label).toList := by
    simp
  refine ⟨?_, ?_, command, _, _, hline, hsev, ?_, escapeProperty file, escapeProperty v.code.label,
    ?_, decodeCommandText_escapeProperty file, decodeCommandText_escapeProperty _,
    decodeCommandText_escapeData _⟩
  · rw [hline]
    simp [hcr, hF.2.2.1, hT.2.2.1, hD.1]
  · rw [hline]
    simp [hlf, hF.2.2.2, hT.2.2.2, hD.2]
  · rw [hprops]
    simp [hF.1, hT.1]
  · rw [hprops, List.splitOn_append_cons_self_of_not_mem (by simp [hF.2.1]),
      List.splitOn_eq_singleton (by simp [hT.2.1])]

/-! ## Reading a summary row -/

/-- The cells of a Markdown table row, read left to right: a pipe cuts the row
unless a backslash stands right before it, and a cut pipe belongs to no cell.
A row that starts and ends with a pipe has an empty piece at either end. -/
def rowCells : List Char → List (List Char)
  | [] => [[]]
  | '\\' :: '|' :: rest => (rowCells rest).modifyHead fun cell => '\\' :: '|' :: cell
  | '|' :: rest => [] :: rowCells rest
  | c :: rest => (rowCells rest).modifyHead (c :: ·)

/-- The text of a cell, with each `\|` read as `|`. -/
def unescapePipes : List Char → List Char
  | '\\' :: '|' :: rest => '|' :: unescapePipes rest
  | c :: rest => c :: unescapePipes rest
  | [] => []

/-- A text with each line feed turned into a space. -/
def spaceLineFeeds (t : List Char) : List Char := t.map fun c => if c = '\n' then ' ' else c

@[simp] theorem rowCells_pipe (rest : List Char) : rowCells ('|' :: rest) = [] :: rowCells rest := by
  simp [rowCells]

theorem rowCells_cons_of_ne {c : Char} {rest : List Char} (hc : c ≠ '|')
    (hb : c = '\\' → rest.head? ≠ some '|') :
    rowCells (c :: rest) = (rowCells rest).modifyHead (c :: ·) := by
  rw [rowCells.eq_def]
  split <;> simp_all

theorem unescapePipes_cons_of_ne {c : Char} {rest : List Char}
    (hb : c = '\\' → rest.head? ≠ some '|') :
    unescapePipes (c :: rest) = c :: unescapePipes rest := by
  rw [unescapePipes.eq_def]
  split <;> simp_all

/-- A text stays inside one cell when it adds to the open cell whatever
follows it, as long as what follows does not start with a pipe (which a
trailing backslash would escape). -/
def StaysInCell (x : List Char) : Prop :=
  ∀ rest : List Char, rest.head? ≠ some '|' → rowCells (x ++ rest) = (rowCells rest).modifyHead (x ++ ·)

/-- A text with no pipe and no backslash stays inside one cell. -/
theorem staysInCell_of_plain {x : List Char} (hx : ∀ c ∈ x, c ≠ '|' ∧ c ≠ '\\') : StaysInCell x := by
  intro rest hrest
  induction x with
  | nil => exact (congrFun List.modifyHead_id _).symm
  | cons c x ih =>
    have hc := hx c List.mem_cons_self
    rw [List.cons_append, rowCells_cons_of_ne hc.1 (fun h => absurd h hc.2),
      ih fun d hd => hx d (List.mem_cons_of_mem _ hd), List.modifyHead_modifyHead]
    rfl

theorem head?_flatMap_cellEscape_append (t rest : List Char) (hrest : rest.head? ≠ some '|') :
    (t.flatMap cellEscape ++ rest).head? ≠ some '|' := by
  cases t with
  | nil => simpa using hrest
  | cons c t =>
    rw [List.flatMap_cons]
    unfold cellEscape
    split_ifs <;> simp_all

/-- Escaped text stays inside one cell. -/
theorem staysInCell_flatMap_cellEscape (t : List Char) : StaysInCell (t.flatMap cellEscape) := by
  intro rest hrest
  induction t with
  | nil => exact (congrFun List.modifyHead_id _).symm
  | cons c t ih =>
    have hnext := head?_flatMap_cellEscape_append t rest hrest
    rw [List.flatMap_cons, List.append_assoc]
    by_cases h1 : c = '|'
    · subst h1
      simp [cellEscape, rowCells, ih, Function.comp_def]
    by_cases h2 : c = '\n'
    · subst h2
      simp [cellEscape, rowCells_cons_of_ne, ih, Function.comp_def]
    · simp only [cellEscape, h1, h2, if_false, List.singleton_append]
      rw [rowCells_cons_of_ne h1 (fun _ => hnext), ih, List.modifyHead_modifyHead]
      rfl

/-- A cell padded by one space on either side, then a cut. -/
theorem rowCells_padded_cell {x : List Char} (hx : StaysInCell x) (rest : List Char) :
    rowCells (' ' :: (x ++ ' ' :: '|' :: rest)) = (' ' :: (x ++ [' '])) :: rowCells rest := by
  have hsep : rowCells (' ' :: '|' :: rest) = [' '] :: rowCells rest := by
    rw [rowCells_cons_of_ne (by decide) (fun h => absurd h (by decide))]
    simp
  rw [rowCells_cons_of_ne (by decide) (fun h => absurd h (by decide)), hx _ (by simp), hsep]
  simp

/-- Reading escaped text back gives the text with line feeds as spaces. -/
theorem unescapePipes_flatMap_cellEscape (t : List Char) :
    unescapePipes (t.flatMap cellEscape) = spaceLineFeeds t := by
  induction t with
  | nil => rfl
  | cons c t ih =>
    have hnext := head?_flatMap_cellEscape_append t [] (by simp)
    rw [List.append_nil] at hnext
    rw [List.flatMap_cons]
    by_cases h1 : c = '|'
    · subst h1
      simp [cellEscape, unescapePipes, ih, spaceLineFeeds]
    by_cases h2 : c = '\n'
    · subst h2
      simp [cellEscape, unescapePipes_cons_of_ne, ih, spaceLineFeeds]
    · simp only [cellEscape, h1, h2, if_false, List.singleton_append]
      rw [unescapePipes_cons_of_ne (fun _ => hnext), ih]
      simp [spaceLineFeeds, h2]

/-- Plain text reads back as itself. -/
theorem unescapePipes_of_plain {x : List Char} (hx : ∀ c ∈ x, c ≠ '|' ∧ c ≠ '\\') :
    unescapePipes x = x := by
  induction x with
  | nil => rfl
  | cons c x ih =>
    have hc := hx c List.mem_cons_self
    rw [unescapePipes_cons_of_ne (fun h => absurd h hc.2), ih fun d hd => hx d (List.mem_cons_of_mem _ hd)]

theorem spaceLineFeeds_of_not_mem {x : List Char} (hx : '\n' ∉ x) : spaceLineFeeds x = x := by
  induction x with
  | nil => rfl
  | cons c x ih =>
    simp only [List.mem_cons, not_or] at hx
    simp only [spaceLineFeeds, List.map_cons, if_neg (Ne.symm hx.1)]
    exact congrArg (c :: ·) (ih hx.2)

theorem carriage_return_mem_cellEscape (c : Char) : '\r' ∈ cellEscape c ↔ c = '\r' := by
  unfold cellEscape
  split_ifs <;> simp_all [eq_comm]

theorem line_feed_not_mem_cellEscape (c : Char) : '\n' ∉ cellEscape c := by
  unfold cellEscape
  split_ifs <;> simp_all [eq_comm]

/-- The severity names hold no pipe, backslash or line ending. -/
theorem Severity.label_plain (s : Severity) :
    ∀ c ∈ s.label.toList, c ≠ '|' ∧ c ≠ '\\' ∧ c ≠ '\n' ∧ c ≠ '\r' := by
  cases s <;> simp [Severity.label]

/-- The code identifiers hold no pipe, backslash or line ending. -/
theorem Code.label_plain (c : Code) :
    ∀ x ∈ c.label.toList, x ≠ '|' ∧ x ≠ '\\' ∧ x ≠ '\n' ∧ x ≠ '\r' := by
  cases c <;> simp [Code.label]

/-! ## The step summary -/

/-- The table row of a violation in a file, without its line feed. -/
def summaryRow (file : String) (v : Violation) : String :=
  "| " ++ escapeCell file ++ " | " ++ v.severity.label ++ " | \x60" ++ v.code.label ++ "\x60 | " ++
    escapeCell v.location ++ " | " ++ escapeCell v.message ++ " |"

/-- How a Markdown reader sees the row of a violation in a file. -/
structure RowReads (row file : String) (v : Violation) : Prop where
  /-- No line feed ends the row early. -/
  line_feed_not_mem : '\n' ∉ row.toList
  /-- A carriage return stands in the row exactly when one of the texts holds it. -/
  carriage_return_mem_iff :
    '\r' ∈ row.toList ↔ '\r' ∈ file.toList ∨ '\r' ∈ v.location.toList ∨ '\r' ∈ v.message.toList
  /-- The row has five cells, each padded by a space, and each reads back as its
  text with line feeds as spaces. -/
  cells : ∃ cells : List (List Char),
    rowCells row.toList = [] :: cells.map (fun cell => ' ' :: (cell ++ [' '])) ++ [[]] ∧
    cells.map unescapePipes =
      [file.toList, v.severity.label.toList, '\x60' :: (v.code.label.toList ++ ['\x60']),
        v.location.toList, v.message.toList].map spaceLineFeeds

theorem toList_summaryRow (file : String) (v : Violation) :
    (summaryRow file v).toList =
      '|' :: ' ' :: (file.toList.flatMap cellEscape ++ ' ' :: '|' :: ' ' ::
        (v.severity.label.toList ++ ' ' :: '|' :: ' ' ::
          (('\x60' :: (v.code.label.toList ++ ['\x60'])) ++ ' ' :: '|' :: ' ' ::
            (v.location.toList.flatMap cellEscape ++ ' ' :: '|' :: ' ' ::
              (v.message.toList.flatMap cellEscape ++ [' ', '|']))))) := by
  -- unfolding by the equation lemma would first try the string appends, which is slow
  delta summaryRow
  simp [toList_escapeCell]

/-- **A summary row reads back.** -/
theorem summaryRow_reads (file : String) (v : Violation) : RowReads (summaryRow file v) file v := by
  have hsev := Severity.label_plain v.severity
  have hcode := Code.label_plain v.code
  -- the code cell is the identifier between backticks, with nothing to escape
  have hquoted : ∀ c ∈ '\x60' :: (v.code.label.toList ++ ['\x60']),
      c ≠ '|' ∧ c ≠ '\\' ∧ c ≠ '\n' ∧ c ≠ '\r' := by
    intro c hc
    simp only [List.mem_cons, List.mem_append, List.not_mem_nil, or_false] at hc
    rcases hc with rfl | hc | rfl
    · decide
    · exact hcode c hc
    · decide
  have hsev_lf : '\n' ∉ v.severity.label.toList := fun h => (hsev _ h).2.2.1 rfl
  have hsev_cr : '\r' ∉ v.severity.label.toList := fun h => (hsev _ h).2.2.2 rfl
  have hcode_lf : '\n' ∉ v.code.label.toList := fun h => (hcode _ h).2.2.1 rfl
  have hcode_cr : '\r' ∉ v.code.label.toList := fun h => (hcode _ h).2.2.2 rfl
  refine ⟨?_, ?_, ?_⟩
  · rw [toList_summaryRow]
    simp [line_feed_not_mem_cellEscape, hsev_lf, hcode_lf]
  · rw [toList_summaryRow]
    simp [carriage_return_mem_cellEscape, hsev_cr, hcode_cr]
  · have hsev_plain : ∀ c ∈ v.severity.label.toList, c ≠ '|' ∧ c ≠ '\\' :=
      fun c hc => ⟨(hsev c hc).1, (hsev c hc).2.1⟩
    have hquoted_plain : ∀ c ∈ '\x60' :: (v.code.label.toList ++ ['\x60']), c ≠ '|' ∧ c ≠ '\\' :=
      fun c hc => ⟨(hquoted c hc).1, (hquoted c hc).2.1⟩
    refine ⟨[file.toList.flatMap cellEscape, v.severity.label.toList,
      '\x60' :: (v.code.label.toList ++ ['\x60']), v.location.toList.flatMap cellEscape,
      v.message.toList.flatMap cellEscape], ?_, ?_⟩
    · -- cut the row cell by cell, from the left
      rw [toList_summaryRow, rowCells_pipe, rowCells_padded_cell (staysInCell_flatMap_cellEscape _),
        rowCells_padded_cell (staysInCell_of_plain hsev_plain),
        rowCells_padded_cell (staysInCell_of_plain hquoted_plain),
        rowCells_padded_cell (staysInCell_flatMap_cellEscape _),
        rowCells_padded_cell (staysInCell_flatMap_cellEscape _)]
      simp [rowCells]
    · simp only [List.map_cons, List.map_nil, unescapePipes_flatMap_cellEscape,
        unescapePipes_of_plain hsev_plain, unescapePipes_of_plain hquoted_plain,
        spaceLineFeeds_of_not_mem hsev_lf,
        spaceLineFeeds_of_not_mem (fun h => (hquoted _ h).2.2.1 rfl)]

/-- The row with its line feed, as the summary writes it. -/
theorem summaryRow_append_line_feed (file : String) (v : Violation) :
    summaryRow file v ++ "\n" =
      "| " ++ escapeCell file ++ " | " ++ v.severity.label ++ " | \x60" ++ v.code.label ++ "\x60 | " ++
        escapeCell v.location ++ " | " ++ escapeCell v.message ++ " |\n" :=
  String.toList_injective (by rw [String.toList_append, toList_summaryRow]; simp [toList_escapeCell])

/-- The violations of a check with their files, report by report and in each
report in order. -/
def summaryEntries (reports : List FileReport) : List (String × Violation) :=
  reports.flatMap fun r => r.result.violations.map fun v => (r.file, v)

/-- The running total of the summary counts the violations of all reports. -/
theorem foldl_add_length_violations (reports : List FileReport) (n : Nat) :
    reports.foldl (fun acc r => acc + r.result.violations.length) n =
      n + (summaryEntries reports).length := by
  induction reports generalizing n with
  | nil => simp [summaryEntries]
  | cons r reports ih =>
    rw [List.foldl_cons, ih, summaryEntries, summaryEntries, List.flatMap_cons, List.length_append,
      List.length_map]
    omega

theorem stepSummary_of_eq_nil {reports : List FileReport} (h : summaryEntries reports = []) :
    stepSummary reports =
      "## oas-lint\n\nNo violations found in " ++ toString reports.length ++ " document(s).\n" := by
  simp only [stepSummary, foldl_add_length_violations, h, List.length_nil, Nat.zero_add, if_pos]

theorem stepSummary_of_ne_nil {reports : List FileReport} (h : summaryEntries reports ≠ []) :
    stepSummary reports =
      "## oas-lint\n\n" ++ toString (summaryEntries reports).length ++ " violation(s) in " ++
        toString reports.length ++ " document(s).\n\n" ++
        "| File | Severity | Code | Location | Message |\n" ++
        "|------|----------|------|----------|---------|\n" ++
        String.join (((summaryEntries reports).map fun e => summaryRow e.1 e.2).map (· ++ "\n")) := by
  have hlen : (summaryEntries reports).length ≠ 0 := by simpa using h
  simp only [stepSummary, foldl_add_length_violations, Nat.zero_add, if_neg hlen]
  simp [summaryEntries, List.map_flatMap, Function.comp_def, summaryRow_append_line_feed]

/-- **The step summary lists every violation, one row each, and each row reads
back.**  Without violations the summary says so; otherwise, after the heading,
the count and the two header lines, it has one row per violation, report by
report and in each report in order, and each row is read by `RowReads`. -/
theorem stepSummary_reads_back (reports : List FileReport) :
    (summaryEntries reports = [] → stepSummary reports =
      "## oas-lint\n\nNo violations found in " ++ toString reports.length ++ " document(s).\n") ∧
    (summaryEntries reports ≠ [] → ∃ rows : List String,
      stepSummary reports =
        "## oas-lint\n\n" ++ toString (summaryEntries reports).length ++ " violation(s) in " ++
          toString reports.length ++ " document(s).\n\n" ++
          "| File | Severity | Code | Location | Message |\n" ++
          "|------|----------|------|----------|---------|\n" ++ String.join (rows.map (· ++ "\n")) ∧
      List.Forall₂ (fun row e => RowReads row e.1 e.2) rows (summaryEntries reports)) := by
  refine ⟨stepSummary_of_eq_nil, fun h => ⟨_, stepSummary_of_ne_nil h, ?_⟩⟩
  rw [List.forall₂_map_left_iff, List.forall₂_same]
  intro e _
  exact summaryRow_reads e.1 e.2

/-- A carriage return in a message reaches the summary: the row of the message
`Enum value 'a<CR>b' …` holds it, and a Markdown reader ends the row there. -/
theorem stepSummary_keeps_carriage_return :
    '\r' ∈ (stepSummary [⟨"api.yaml", ⟨[⟨.enumNotUpperSnakeCase, .error, "schema Color",
      "Enum value 'a\rb' must use UPPER_SNAKE_CASE"⟩], 0, 1⟩⟩]).toList := by
  rw [stepSummary_of_ne_nil (by simp [summaryEntries])]
  have hrow := (summaryRow_reads "api.yaml" ⟨.enumNotUpperSnakeCase, .error, "schema Color",
    "Enum value 'a\rb' must use UPPER_SNAKE_CASE"⟩).carriage_return_mem_iff
  simp only [summaryEntries, List.flatMap_cons, List.flatMap_nil, List.map_cons, List.map_nil,
    List.append_nil, String.join_cons, String.join_nil, String.append_empty, String.toList_append,
    List.mem_append]
  exact .inr (.inl (hrow.2 (.inr (.inr (by simp)))))

end OpenApiLint
