import OpenApiLint.Yaml.Scanner
/-!
# YAML parsing

The parser turns tokens into events: the start and end of the stream, of
each document, sequence and mapping, and scalars and aliases, each with the
mark where it starts.  It is a state machine with a stack of states to
return to, following the grammar of block and flow collections:

* a block mapping is `BLOCK-MAPPING-START (KEY node? (VALUE node?)?)* BLOCK-END`,
  a block sequence `BLOCK-SEQUENCE-START (BLOCK-ENTRY node?)* BLOCK-END`, and a
  sequence that is the value of a mapping key may omit the indentation;
* flow collections are bracketed, with entries separated by `,`, and a
  single `key: value` pair may stand as an entry of a flow sequence;
* a missing node is an empty plain scalar.

Tags are resolved against the `%TAG` directives of the document and the two
defaults, `!` and `!!` (which stands for `tag:yaml.org,2002:`).

## Main definitions

* `Yaml.Event`, `Yaml.EventKind`.
* `Yaml.parseEvents` — the events of a text, and the error that ended them, if any.
-/

namespace OpenApiLint.Yaml

/-- What an event reports.  Tags are bytes, resolved to their full form. -/
inductive EventKind where
  | streamStart
  | streamEnd
  | documentStart
  | documentEnd
  | alias (name : String)
  | scalar (anchor : Option String) (tag : Option (List UInt8)) (text : String) (style : ScalarStyle)
  | sequenceStart (anchor : Option String) (tag : Option (List UInt8))
  | sequenceEnd
  | mappingStart (anchor : Option String) (tag : Option (List UInt8))
  | mappingEnd
  deriving Inhabited, BEq, Repr

/-- An event and the mark where it starts. -/
structure Event where
  kind : EventKind
  start : Mark
  deriving Inhabited, Repr

/-- Where the parser is in the grammar. -/
inductive ParseState where
  | streamStart
  | implicitDocumentStart
  | documentStart
  | documentContent
  | documentEnd
  | blockNode
  | blockNodeOrIndentlessSequence
  | flowNode
  | blockSequenceFirstEntry
  | blockSequenceEntry
  | indentlessSequenceEntry
  | blockMappingFirstKey
  | blockMappingKey
  | blockMappingValue
  | flowSequenceFirstEntry
  | flowSequenceEntry
  | flowSequenceEntryMappingKey
  | flowSequenceEntryMappingValue
  | flowSequenceEntryMappingEnd
  | flowMappingFirstKey
  | flowMappingKey
  | flowMappingValue
  | flowMappingEmptyValue
  | finished
  deriving Inhabited, BEq

/-- The parser: the tokens and how far they were read, the error that ended
them, the state and the states to return to, the start marks of the open
collections, and the tag directives in force. -/
structure Parser where
  tokens : Array Token
  scanError : Option Problem
  pos : Nat := 0
  state : ParseState := .streamStart
  states : List ParseState := []
  marks : List Mark := []
  tagDirectives : List (List UInt8 × List UInt8) := []

/-- Parsing: a state that an error ends. -/
abbrev Parse := StateT Parser (Except Problem)

/-- The next token; past the last one, the error that ended scanning. -/
def peekToken : Parse Token := do
  let p ← get
  match p.tokens[p.pos]? with
  | some t => pure t
  | none => throw (p.scanError.getD { problem := "unexpected end of tokens" })

/-- Step past the next token. -/
def skipToken : Parse Unit := modify fun p => { p with pos := p.pos + 1 }

/-- Fail with a problem at a mark. -/
def failAt {α : Type} (problem : String) (m : Mark) : Parse α :=
  throw { problem, problemMark := m }

/-- Fail with a problem at a mark, in a context that began at another. -/
def failIn {α : Type} (context : String) (contextMark : Mark) (problem : String) (m : Mark) : Parse α :=
  throw { problem, problemMark := m, context := some context, contextMark }

/-- Return to the state on top of the stack. -/
def popState : Parse Unit := modify fun p =>
  { p with state := p.states.headD .finished, states := p.states.tail }

/-- Remember a state to return to. -/
def pushState (st : ParseState) : Parse Unit := modify fun p => { p with states := st :: p.states }

/-- Remember where a collection starts. -/
def pushMark (m : Mark) : Parse Unit := modify fun p => { p with marks := m :: p.marks }

/-- Forget where the innermost collection starts, returning it. -/
def popMark : Parse Mark := do
  let p ← get
  set { p with marks := p.marks.tail }
  pure (p.marks.headD {})

/-- Move to a state. -/
def goTo (st : ParseState) : Parse Unit := modify fun p => { p with state := st }

/-- An empty plain scalar at a mark: what a missing node is. -/
def emptyScalar (m : Mark) : Event := ⟨.scalar none none "" .plain, m⟩

/-- Whether a token is of one of the given kinds (compared by constructor). -/
def TokenKind.isOneOf (k : TokenKind) (ks : List TokenKind) : Bool := ks.contains k

/-! ## Documents -/

/-- The expansion of `!!`. -/
def coreTagPrefix : List UInt8 := "tag:yaml.org,2002:".toUTF8.toList

/-- The default tag directives. -/
def defaultTagDirectives : List (List UInt8 × List UInt8) := [([33], [33]), ([33, 33], coreTagPrefix)]

/-- Add a tag directive; a handle given twice is an error unless duplicates
are allowed, when the first one stays. -/
def appendTagDirective (handle expansion : List UInt8) (allowDuplicates : Bool) (m : Mark) : Parse Unit := do
  let p ← get
  if p.tagDirectives.any (·.1 == handle) then
    if allowDuplicates then pure () else failAt "found duplicate %TAG directive" m
  else set { p with tagDirectives := p.tagDirectives ++ [(handle, expansion)] }

/-- Read the directives before a document, then add the defaults. -/
def processDirectives : Nat → Bool → Parse Unit
  | 0, _ => pure ()
  | n + 1, seenVersion => do
    let t ← peekToken
    match t.kind with
    | .versionDirective major minor =>
      if seenVersion then failAt "found duplicate %YAML directive" t.start
      if major != 1 || (minor != 1 && minor != 2) then failAt "found incompatible YAML document" t.start
      skipToken
      processDirectives n true
    | .tagDirective handle expansion =>
      appendTagDirective handle expansion false t.start
      skipToken
      processDirectives n seenVersion
    | _ =>
      for (h, e) in defaultTagDirectives do
        appendTagDirective h e true t.start

/-- The start of a document, or the end of the stream.  A document without
`---` is implicit; after the first document, `---` is required. -/
def parseDocumentStart (implicit : Bool) : Parse Event := do
  let mut t ← peekToken
  if !implicit then
    for _ in [0:(← get).tokens.size] do
      if t.kind == .documentEnd then
        skipToken
        t ← peekToken
  let directiveOrStart (k : TokenKind) : Bool := match k with
    | .versionDirective .. | .tagDirective .. | .documentStart => true
    | _ => false
  if implicit && !directiveOrStart t.kind && t.kind != .streamEnd then
    processDirectives ((← get).tokens.size + 1) false
    pushState .documentEnd
    goTo .blockNode
    pure ⟨.documentStart, t.start⟩
  else if t.kind != .streamEnd then
    let start := t.start
    processDirectives ((← get).tokens.size + 1) false
    let next ← peekToken
    if next.kind != .documentStart then failAt "did not find expected <document start>" next.start
    pushState .documentEnd
    goTo .documentContent
    skipToken
    pure ⟨.documentStart, start⟩
  else
    goTo .finished
    skipToken
    pure ⟨.streamEnd, t.start⟩

/-- The content of an explicit document: a node, or an empty scalar when the
document is empty. -/
def parseDocumentContent (node : Parse Event) : Parse Event := do
  let t ← peekToken
  match t.kind with
  | .versionDirective .. | .tagDirective .. | .documentStart | .documentEnd | .streamEnd =>
    popState
    pure (emptyScalar t.start)
  | _ => node

/-- The end of a document, with `...` or without; tag directives end with it. -/
def parseDocumentEnd : Parse Event := do
  let t ← peekToken
  if t.kind == .documentEnd then skipToken
  modify fun p => { p with tagDirectives := [] }
  goTo .documentStart
  pure ⟨.documentEnd, t.start⟩

/-! ## Nodes -/

/-- Resolve a tag's handle: an empty handle leaves the suffix as it is. -/
def resolveTag (handle suffix : List UInt8) (start tagMark : Mark) : Parse (List UInt8) := do
  if handle.isEmpty then pure suffix
  else
    match (← get).tagDirectives.find? (·.1 == handle) with
    | some (_, expansion) => pure (expansion ++ suffix)
    | none => failIn "while parsing a node" start "found undefined tag handle" tagMark

/-- A node: an alias, or properties (anchor and tag, in either order)
followed by a scalar, a collection start, or nothing (an empty scalar). -/
def parseNode (block indentlessSequence : Bool) : Parse Event := do
  let t ← peekToken
  match t.kind with
  | .alias name =>
    popState
    skipToken
    pure ⟨.alias name, t.start⟩
  | _ =>
    let start := t.start
    let mut anchor : Option String := none
    let mut tagParts : Option (List UInt8 × List UInt8 × Mark) := none
    let mut t := t
    match t.kind with
    | .anchor name =>
      anchor := some name
      skipToken
      t ← peekToken
      if let .tag h s := t.kind then
        tagParts := some (h, s, t.start)
        skipToken
        t ← peekToken
    | .tag h s =>
      tagParts := some (h, s, t.start)
      skipToken
      t ← peekToken
      if let .anchor name := t.kind then
        anchor := some name
        skipToken
        t ← peekToken
    | _ => pure ()
    let tag ← match tagParts with
      | some (h, s, m) => some <$> resolveTag h s start m
      | none => pure none
    if indentlessSequence && t.kind == .blockEntry then
      goTo .indentlessSequenceEntry
      pure ⟨.sequenceStart anchor tag, start⟩
    else
      match t.kind with
      | .scalar text style =>
        popState
        skipToken
        pure ⟨.scalar anchor tag text style, start⟩
      | .flowSequenceStart =>
        goTo .flowSequenceFirstEntry
        pure ⟨.sequenceStart anchor tag, start⟩
      | .flowMappingStart =>
        goTo .flowMappingFirstKey
        pure ⟨.mappingStart anchor tag, start⟩
      | .blockSequenceStart =>
        if block then
          goTo .blockSequenceFirstEntry
          pure ⟨.sequenceStart anchor tag, start⟩
        else if anchor.isSome || tag.isSome then
          popState
          pure ⟨.scalar anchor tag "" .plain, start⟩
        else failIn "while parsing a flow node" start "did not find expected node content" t.start
      | .blockMappingStart =>
        if block then
          goTo .blockMappingFirstKey
          pure ⟨.mappingStart anchor tag, start⟩
        else if anchor.isSome || tag.isSome then
          popState
          pure ⟨.scalar anchor tag "" .plain, start⟩
        else failIn "while parsing a flow node" start "did not find expected node content" t.start
      | _ =>
        if anchor.isSome || tag.isSome then
          popState
          pure ⟨.scalar anchor tag "" .plain, start⟩
        else
          failIn (if block then "while parsing a block node" else "while parsing a flow node") start
            "did not find expected node content" t.start

/-! ## Block collections -/

/-- An entry of a block sequence, or its end. -/
def parseBlockSequenceEntry (first : Bool) : Parse Event := do
  if first then
    pushMark (← peekToken).start
    skipToken
  let t ← peekToken
  match t.kind with
  | .blockEntry =>
    skipToken
    let next ← peekToken
    if next.kind != .blockEntry && next.kind != .blockEnd then
      pushState .blockSequenceEntry
      parseNode true false
    else
      goTo .blockSequenceEntry
      pure (emptyScalar t.stop)
  | .blockEnd =>
    popState
    let _ ← popMark
    skipToken
    pure ⟨.sequenceEnd, t.start⟩
  | _ => failIn "while parsing a block collection" (← popMark) "did not find expected '-' indicator" t.start

/-- An entry of a sequence written at the indentation of its mapping key. -/
def parseIndentlessSequenceEntry : Parse Event := do
  let t ← peekToken
  if t.kind == .blockEntry then
    skipToken
    let next ← peekToken
    if !next.kind.isOneOf [.blockEntry, .key, .value, .blockEnd] then
      pushState .indentlessSequenceEntry
      parseNode true false
    else
      goTo .indentlessSequenceEntry
      pure (emptyScalar t.stop)
  else
    popState
    pure ⟨.sequenceEnd, t.start⟩

/-- A key of a block mapping, or its end. -/
def parseBlockMappingKey (first : Bool) : Parse Event := do
  if first then
    pushMark (← peekToken).start
    skipToken
  let t ← peekToken
  match t.kind with
  | .key =>
    skipToken
    let next ← peekToken
    if !next.kind.isOneOf [.key, .value, .blockEnd] then
      pushState .blockMappingValue
      parseNode true true
    else
      goTo .blockMappingValue
      pure (emptyScalar t.stop)
  | .blockEnd =>
    popState
    let _ ← popMark
    skipToken
    pure ⟨.mappingEnd, t.start⟩
  | _ => failIn "while parsing a block mapping" (← popMark) "did not find expected key" t.start

/-- A value of a block mapping; an empty scalar when it is missing. -/
def parseBlockMappingValue : Parse Event := do
  let t ← peekToken
  if t.kind == .value then
    skipToken
    let next ← peekToken
    if !next.kind.isOneOf [.key, .value, .blockEnd] then
      pushState .blockMappingKey
      parseNode true true
    else
      goTo .blockMappingKey
      pure (emptyScalar t.stop)
  else
    goTo .blockMappingKey
    pure (emptyScalar t.start)

/-! ## Flow collections -/

/-- An entry of a flow sequence, or its end; a `KEY` opens a one-pair mapping. -/
def parseFlowSequenceEntry (first : Bool) : Parse Event := do
  if first then
    pushMark (← peekToken).start
    skipToken
  let mut t ← peekToken
  if t.kind != .flowSequenceEnd then
    if !first then
      if t.kind == .flowEntry then
        skipToken
        t ← peekToken
      else
        failIn "while parsing a flow sequence" (← popMark) "did not find expected ',' or ']'" t.start
    if t.kind == .key then
      goTo .flowSequenceEntryMappingKey
      skipToken
      return ⟨.mappingStart none none, t.start⟩
    else if t.kind != .flowSequenceEnd then
      pushState .flowSequenceEntry
      return ← parseNode false false
  popState
  let _ ← popMark
  skipToken
  pure ⟨.sequenceEnd, t.start⟩

/-- The key of a one-pair mapping in a flow sequence. -/
def parseFlowSequenceEntryMappingKey : Parse Event := do
  let t ← peekToken
  if !t.kind.isOneOf [.value, .flowEntry, .flowSequenceEnd] then
    pushState .flowSequenceEntryMappingValue
    parseNode false false
  else
    skipToken
    goTo .flowSequenceEntryMappingValue
    pure (emptyScalar t.stop)

/-- The value of a one-pair mapping in a flow sequence. -/
def parseFlowSequenceEntryMappingValue : Parse Event := do
  let mut t ← peekToken
  if t.kind == .value then
    skipToken
    t ← peekToken
    if !t.kind.isOneOf [.flowEntry, .flowSequenceEnd] then
      pushState .flowSequenceEntryMappingEnd
      return ← parseNode false false
  goTo .flowSequenceEntryMappingEnd
  pure (emptyScalar t.start)

/-- The end of a one-pair mapping in a flow sequence. -/
def parseFlowSequenceEntryMappingEnd : Parse Event := do
  goTo .flowSequenceEntry
  pure ⟨.mappingEnd, (← peekToken).start⟩

/-- A key of a flow mapping, or its end. -/
def parseFlowMappingKey (first : Bool) : Parse Event := do
  if first then
    pushMark (← peekToken).start
    skipToken
  let mut t ← peekToken
  if t.kind != .flowMappingEnd then
    if !first then
      if t.kind == .flowEntry then
        skipToken
        t ← peekToken
      else
        failIn "while parsing a flow mapping" (← popMark) "did not find expected ',' or '\x7d'" t.start
    if t.kind == .key then
      skipToken
      t ← peekToken
      if !t.kind.isOneOf [.value, .flowEntry, .flowMappingEnd] then
        pushState .flowMappingValue
        return ← parseNode false false
      else
        goTo .flowMappingValue
        return emptyScalar t.start
    else if t.kind != .flowMappingEnd then
      pushState .flowMappingEmptyValue
      return ← parseNode false false
  popState
  let _ ← popMark
  skipToken
  pure ⟨.mappingEnd, t.start⟩

/-- A value of a flow mapping; an empty scalar when it is missing. -/
def parseFlowMappingValue (empty : Bool) : Parse Event := do
  let mut t ← peekToken
  if empty then
    goTo .flowMappingKey
    return emptyScalar t.start
  if t.kind == .value then
    skipToken
    t ← peekToken
    if !t.kind.isOneOf [.flowEntry, .flowMappingEnd] then
      pushState .flowMappingKey
      return ← parseNode false false
  goTo .flowMappingKey
  pure (emptyScalar t.start)

/-! ## The state machine -/

/-- The stream start. -/
def parseStreamStart : Parse Event := do
  let t ← peekToken
  if t.kind != .streamStart then failAt "did not find expected <stream-start>" t.start
  goTo .implicitDocumentStart
  skipToken
  pure ⟨.streamStart, t.start⟩

/-- The next event, from the current state. -/
def parseNext : Parse Event := do
  match (← get).state with
  | .streamStart => parseStreamStart
  | .implicitDocumentStart => parseDocumentStart true
  | .documentStart => parseDocumentStart false
  | .documentContent => parseDocumentContent (parseNode true false)
  | .documentEnd => parseDocumentEnd
  | .blockNode => parseNode true false
  | .blockNodeOrIndentlessSequence => parseNode true true
  | .flowNode => parseNode false false
  | .blockSequenceFirstEntry => parseBlockSequenceEntry true
  | .blockSequenceEntry => parseBlockSequenceEntry false
  | .indentlessSequenceEntry => parseIndentlessSequenceEntry
  | .blockMappingFirstKey => parseBlockMappingKey true
  | .blockMappingKey => parseBlockMappingKey false
  | .blockMappingValue => parseBlockMappingValue
  | .flowSequenceFirstEntry => parseFlowSequenceEntry true
  | .flowSequenceEntry => parseFlowSequenceEntry false
  | .flowSequenceEntryMappingKey => parseFlowSequenceEntryMappingKey
  | .flowSequenceEntryMappingValue => parseFlowSequenceEntryMappingValue
  | .flowSequenceEntryMappingEnd => parseFlowSequenceEntryMappingEnd
  | .flowMappingFirstKey => parseFlowMappingKey true
  | .flowMappingKey => parseFlowMappingKey false
  | .flowMappingValue => parseFlowMappingValue false
  | .flowMappingEmptyValue => parseFlowMappingValue true
  | .finished => pure ⟨.streamEnd, {}⟩

/-- Events until the stream end or an error. -/
def eventsFrom : Nat → Parser → Array Event → Array Event × Option Problem
  | 0, _, acc => (acc, none)
  | n + 1, p, acc =>
    match parseNext.run p with
    | .error e => (acc, some e)
    | .ok (ev, p) =>
      let acc := acc.push ev
      if ev.kind == .streamEnd then (acc, none) else eventsFrom n p acc

/-- The events of a text, and the error that stopped them, if any. -/
def parseEvents (input : String) : Array Event × Option Problem :=
  let (tokens, scanError) := tokenize input
  eventsFrom (4 * tokens.size + 16) { tokens, scanError } #[]

end OpenApiLint.Yaml
