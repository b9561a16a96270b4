import SwiftDevEnv.Yaml.Scanner

/-!
# The YAML parser

The parser turns tokens into events following the YAML grammar. It is a state machine: the
current state says which production is being read, and a stack of states says where to go
back once a node is complete. A second stack keeps the start marks of open collections,
which errors name as their context.

Tags are resolved here: a handle is replaced by the prefix a `%TAG` directive of the document
gives it, or by the default prefixes of `!` and `!!`. Where a node is missing (an empty value,
an empty document) an empty plain scalar is produced.
-/

namespace SwiftDevEnv.Yaml

/-- The productions the parser can be in the middle of. -/
inductive ParseState
  | streamStart
  | implicitDocumentStart
  | documentStart
  | documentContent
  | documentEnd
  | blockNode
  | blockNodeOrIndentlessSequence
  | flowNode
  | blockSequenceFirstEntry
  | blockSequenceEntry
  | indentlessSequenceEntry
  | blockMappingFirstKey
  | blockMappingKey
  | blockMappingValue
  | flowSequenceFirstEntry
  | flowSequenceEntry
  | flowSequenceEntryMappingKey
  | flowSequenceEntryMappingValue
  | flowSequenceEntryMappingEnd
  | flowMappingFirstKey
  | flowMappingKey
  | flowMappingValue
  | flowMappingEmptyValue
  | finished
  deriving Repr, DecidableEq, Inhabited

/-- The parser state: the scanner, the current state, the states to return to, the start
marks of open collections and the tag directives of the current document. -/
structure Parser where
  scanner : Scanner
  state : ParseState
  states : List ParseState
  marks : List Mark
  tagDirectives : List (List UInt8 × List UInt8)
  deriving Inhabited

/-- A parser at the start of the given input. -/
def Parser.start (input : Input) : Parser :=
  ⟨Scanner.start input, .streamStart, [], [], []⟩

/-- Parsing steps: they change the parser and may fail with a stream error. -/
abbrev ParseM := StateT Parser (Except StreamError)

/-- The prefixes of the two handles every document knows. -/
def defaultTagDirectives : List (List UInt8 × List UInt8) :=
  [([33], [33]), ([33, 33], "tag:yaml.org,2002:".toUTF8.toList)]

namespace Parser

/-- Runs a scanning step on the parser's scanner. -/
def scan (m : ScanM α) : ParseM α := fun p => do
  let (a, s) ← m.run p.scanner
  pure (a, { p with scanner := s })

/-- The next token. -/
def peek : ParseM Token := scan Scanner.peekToken

/-- Consumes the next token. -/
def next : ParseM Unit := scan Scanner.skipToken

/-- A bound on the number of passes of a loop over tokens. -/
def bound : ParseM Nat := do pure ((← get).scanner.input.chars.size + 8)

/-- Moves to a state. -/
def goto (s : ParseState) : ParseM Unit := modify fun p => { p with state := s }

/-- Remembers a state to return to. -/
def pushState (s : ParseState) : ParseM Unit := modify fun p => { p with states := s :: p.states }

/-- Returns to the last remembered state. -/
def popState : ParseM Unit :=
  modify fun p => { p with state := p.states.headD .finished, states := p.states.tail }

/-- Remembers the start of a collection. -/
def pushMark (m : Mark) : ParseM Unit := modify fun p => { p with marks := m :: p.marks }

/-- Forgets the start of the innermost collection, giving it. -/
def popMark : ParseM Mark := do
  let p ← get
  set { p with marks := p.marks.tail }
  pure (p.marks.headD Mark.origin)

/-- Fails at a mark. -/
def failAt (problem : String) (m : Mark) : ParseM α := throw (StreamError.located problem m)

/-- Fails at a mark, naming the production and where it began. -/
def failWithin (context : String) (contextMark : Mark) (problem : String) (m : Mark) :
    ParseM α :=
  throw (StreamError.within context contextMark problem m)

/-- An empty plain scalar at a mark. -/
def emptyScalar (m : Mark) : Event := ⟨.scalar none none "" .plain, m⟩

/-- Reads the directives before a document and sets its tag directives: those of the
document, then the default handles it does not redefine. -/
def processDirectives : ParseM Unit := do
  let mut seenVersion := false
  let mut directives : List (List UInt8 × List UInt8) := []
  let n ← bound
  for _ in [0:n] do
    let t ← peek
    match t.kind with
    | .versionDirective major minor =>
      if seenVersion then failAt "found duplicate %YAML directive" t.start
      if major != 1 || (minor != 1 && minor != 2) then
        failAt "found incompatible YAML document" t.start
      seenVersion := true
      next
    | .tagDirective handle pfx =>
      if directives.any (·.1 == handle) then failAt "found duplicate %TAG directive" t.start
      directives := directives ++ [(handle, pfx)]
      next
    | _ => break
  let defaults := defaultTagDirectives.filter fun d => !directives.any (·.1 == d.1)
  modify fun p => { p with tagDirectives := directives ++ defaults }

/-- Resolves a tag handle and suffix against the document's tag directives. -/
def resolveTag (handle suffix : List UInt8) (start tagMark : Mark) : ParseM Tag := do
  if handle.isEmpty then return suffix
  match (← get).tagDirectives.find? (·.1 == handle) with
  | some (_, pfx) => pure (pfx ++ suffix)
  | none => failWithin "while parsing a node" start "found undefined tag handle" tagMark

/-- Parses a node: an alias, or a scalar or collection with an optional anchor and tag (in
either order). A lone anchor or tag stands for an empty scalar. In a block mapping value, a
`-` at the key's column starts a sequence without indentation. -/
def parseNode (block indentless : Bool) : ParseM Event := do
  let first ← peek
  if let .alias name := first.kind then
    popState
    next
    return ⟨.alias name, first.start⟩
  let start := first.start
  let mut anchor : Option String := none
  let mut tagParts : Option (List UInt8 × List UInt8 × Mark) := none
  let mut t := first
  match first.kind with
  | .anchor name =>
    anchor := some name
    next
    t ← peek
    if let .tag h s := t.kind then
      tagParts := some (h, s, t.start)
      next
      t ← peek
  | .tag h s =>
    tagParts := some (h, s, first.start)
    next
    t ← peek
    if let .anchor name := t.kind then
      anchor := some name
      next
      t ← peek
  | _ => pure ()
  let tag ← match tagParts with
    | none => pure none
    | some (h, s, m) => some <$> resolveTag h s start m
  if indentless then
    if let .blockEntry := t.kind then
      goto .indentlessSequenceEntry
      return ⟨.sequenceStart anchor tag, start⟩
  match t.kind with
  | .scalar text style =>
    popState
    next
    pure ⟨.scalar anchor tag text style, start⟩
  | .flowSequenceStart =>
    goto .flowSequenceFirstEntry
    pure ⟨.sequenceStart anchor tag, start⟩
  | .flowMappingStart =>
    goto .flowMappingFirstKey
    pure ⟨.mappingStart anchor tag, start⟩
  | .blockSequenceStart =>
    if block then
      goto .blockSequenceFirstEntry
      return ⟨.sequenceStart anchor tag, start⟩
    if anchor.isSome || tag.isSome then
      popState
      return ⟨.scalar anchor tag "" .plain, start⟩
    failWithin "while parsing a flow node" start "did not find expected node content" t.start
  | .blockMappingStart =>
    if block then
      goto .blockMappingFirstKey
      return ⟨.mappingStart anchor tag, start⟩
    if anchor.isSome || tag.isSome then
      popState
      return ⟨.scalar anchor tag "" .plain, start⟩
    failWithin "while parsing a flow node" start "did not find expected node content" t.start
  | _ =>
    if anchor.isSome || tag.isSome then
      popState
      return ⟨.scalar anchor tag "" .plain, start⟩
    failWithin (if block then "while parsing a block node" else "while parsing a flow node") start
      "did not find expected node content" t.start

/-- The stream start. -/
def parseStreamStart : ParseM Event := do
  let t ← peek
  match t.kind with
  | .streamStart =>
    goto .implicitDocumentStart
    next
    pure ⟨.streamStart, t.start⟩
  | _ => failAt "did not find expected <stream-start>" t.start

/-- A document start, or the stream end. The first document may start without `---` when it
has no directives; later ones need `---`. Stray `...` markers are skipped. -/
def parseDocumentStart (implicit : Bool) : ParseM Event := do
  let mut t ← peek
  if !implicit then
    let n ← bound
    for _ in [0:n] do
      match t.kind with
      | .documentEnd =>
        next
        t ← peek
      | _ => break
  let opensExplicitly :=
    match t.kind with
    | .versionDirective .. | .tagDirective .. | .documentStart | .streamEnd => true
    | _ => false
  if implicit && !opensExplicitly then
    processDirectives
    pushState .documentEnd
    goto .blockNode
    return ⟨.documentStart, t.start⟩
  if let .streamEnd := t.kind then
    goto .finished
    next
    return ⟨.streamEnd, t.start⟩
  let start := t.start
  processDirectives
  let u ← peek
  match u.kind with
  | .documentStart =>
    pushState .documentEnd
    goto .documentContent
    next
    pure ⟨.documentStart, start⟩
  | _ => failAt "did not find expected <document start>" u.start

/-- The content of an explicit document, which may be empty. -/
def parseDocumentContent : ParseM Event := do
  let t ← peek
  match t.kind with
  | .versionDirective .. | .tagDirective .. | .documentStart | .documentEnd | .streamEnd =>
    popState
    pure (emptyScalar t.start)
  | _ => parseNode true false

/-- A document end, with or without `...`. -/
def parseDocumentEnd : ParseM Event := do
  let t ← peek
  if let .documentEnd := t.kind then next
  modify fun p => { p with tagDirectives := [] }
  goto .documentStart
  pure ⟨.documentEnd, t.start⟩

/-- An entry of a block sequence, or its end. -/
def parseBlockSequenceEntry (first : Bool) : ParseM Event := do
  if first then
    pushMark (← peek).start
    next
  let t ← peek
  match t.kind with
  | .blockEntry =>
    next
    let u ← peek
    match u.kind with
    | .blockEntry | .blockEnd =>
      goto .blockSequenceEntry
      pure (emptyScalar t.stop)
    | _ =>
      pushState .blockSequenceEntry
      parseNode true false
  | .blockEnd =>
    popState
    let _ ← popMark
    next
    pure ⟨.sequenceEnd, t.start⟩
  | _ =>
    failWithin "while parsing a block collection" (← popMark) "did not find expected '-' indicator"
      t.start

/-- An entry of a sequence without indentation, or its end. -/
def parseIndentlessSequenceEntry : ParseM Event := do
  let t ← peek
  match t.kind with
  | .blockEntry =>
    next
    let u ← peek
    match u.kind with
    | .blockEntry | .key | .value | .blockEnd =>
      goto .indentlessSequenceEntry
      pure (emptyScalar t.stop)
    | _ =>
      pushState .indentlessSequenceEntry
      parseNode true false
  | _ =>
    popState
    pure ⟨.sequenceEnd, t.start⟩

/-- A key of a block mapping, or its end. -/
def parseBlockMappingKey (first : Bool) : ParseM Event := do
  if first then
    pushMark (← peek).start
    next
  let t ← peek
  match t.kind with
  | .key =>
    next
    let u ← peek
    match u.kind with
    | .key | .value | .blockEnd =>
      goto .blockMappingValue
      pure (emptyScalar t.stop)
    | _ =>
      pushState .blockMappingValue
      parseNode true true
  | .blockEnd =>
    popState
    let _ ← popMark
    next
    pure ⟨.mappingEnd, t.start⟩
  | _ =>
    failWithin "while parsing a block mapping" (← popMark) "did not find expected key" t.start

/-- A value of a block mapping, empty when there is no `:`. -/
def parseBlockMappingValue : ParseM Event := do
  let t ← peek
  match t.kind with
  | .value =>
    next
    let u ← peek
    match u.kind with
    | .key | .value | .blockEnd =>
      goto .blockMappingKey
      pure (emptyScalar t.stop)
    | _ =>
      pushState .blockMappingKey
      parseNode true true
  | _ =>
    goto .blockMappingKey
    pure (emptyScalar t.start)

/-- An entry of a flow sequence, or its end. An entry with a key is a one-pair mapping. -/
def parseFlowSequenceEntry (first : Bool) : ParseM Event := do
  if first then
    pushMark (← peek).start
    next
  let mut t ← peek
  let atEnd := match t.kind with
    | .flowSequenceEnd => true
    | _ => false
  if !atEnd then
    if !first then
      match t.kind with
      | .flowEntry =>
        next
        t ← peek
      | _ =>
        failWithin "while parsing a flow sequence" (← popMark) "did not find expected ',' or ']'"
          t.start
    match t.kind with
    | .key =>
      goto .flowSequenceEntryMappingKey
      next
      return ⟨.mappingStart none none, t.start⟩
    | .flowSequenceEnd => pure ()
    | _ =>
      pushState .flowSequenceEntry
      return (← parseNode false false)
  popState
  let _ ← popMark
  next
  pure ⟨.sequenceEnd, t.start⟩

/-- The key of a one-pair mapping in a flow sequence. -/
def parseFlowSequenceEntryMappingKey : ParseM Event := do
  let t ← peek
  match t.kind with
  | .value | .flowEntry | .flowSequenceEnd =>
    goto .flowSequenceEntryMappingValue
    pure (emptyScalar t.start)
  | _ =>
    pushState .flowSequenceEntryMappingValue
    parseNode false false

/-- The value of a one-pair mapping in a flow sequence. -/
def parseFlowSequenceEntryMappingValue : ParseM Event := do
  let t ← peek
  match t.kind with
  | .value =>
    next
    let u ← peek
    match u.kind with
    | .flowEntry | .flowSequenceEnd =>
      goto .flowSequenceEntryMappingEnd
      pure (emptyScalar u.start)
    | _ =>
      pushState .flowSequenceEntryMappingEnd
      parseNode false false
  | _ =>
    goto .flowSequenceEntryMappingEnd
    pure (emptyScalar t.start)

/-- The end of a one-pair mapping in a flow sequence. -/
def parseFlowSequenceEntryMappingEnd : ParseM Event := do
  let t ← peek
  goto .flowSequenceEntry
  pure ⟨.mappingEnd, t.start⟩

/-- A key of a flow mapping, or its end. A key without `:` gets an empty value. -/
def parseFlowMappingKey (first : Bool) : ParseM Event := do
  if first then
    pushMark (← peek).start
    next
  let mut t ← peek
  let atEnd := match t.kind with
    | .flowMappingEnd => true
    | _ => false
  if !atEnd then
    if !first then
      match t.kind with
      | .flowEntry =>
        next
        t ← peek
      | _ =>
        failWithin "while parsing a flow mapping" (← popMark) "did not find expected ',' or '\x7d'"
          t.start
    match t.kind with
    | .key =>
      next
      let u ← peek
      match u.kind with
      | .value | .flowEntry | .flowMappingEnd =>
        goto .flowMappingValue
        return emptyScalar u.start
      | _ =>
        pushState .flowMappingValue
        return (← parseNode false false)
    | .flowMappingEnd => pure ()
    | _ =>
      pushState .flowMappingEmptyValue
      return (← parseNode false false)
  popState
  let _ ← popMark
  next
  pure ⟨.mappingEnd, t.start⟩

/-- A value of a flow mapping; `empty` when the key had no `:`. -/
def parseFlowMappingValue (empty : Bool) : ParseM Event := do
  let t ← peek
  if empty then
    goto .flowMappingKey
    return emptyScalar t.start
  match t.kind with
  | .value =>
    next
    let u ← peek
    match u.kind with
    | .flowEntry | .flowMappingEnd =>
      goto .flowMappingKey
      pure (emptyScalar u.start)
    | _ =>
      pushState .flowMappingKey
      parseNode false false
  | _ =>
    goto .flowMappingKey
    pure (emptyScalar t.start)

/-- The next event. After the stream end it keeps giving the stream end. -/
def nextEvent : ParseM Event := do
  match (← get).state with
  | .streamStart => parseStreamStart
  | .implicitDocumentStart => parseDocumentStart true
  | .documentStart => parseDocumentStart false
  | .documentContent => parseDocumentContent
  | .documentEnd => parseDocumentEnd
  | .blockNode => parseNode true false
  | .blockNodeOrIndentlessSequence => parseNode true true
  | .flowNode => parseNode false false
  | .blockSequenceFirstEntry => parseBlockSequenceEntry true
  | .blockSequenceEntry => parseBlockSequenceEntry false
  | .indentlessSequenceEntry => parseIndentlessSequenceEntry
  | .blockMappingFirstKey => parseBlockMappingKey true
  | .blockMappingKey => parseBlockMappingKey false
  | .blockMappingValue => parseBlockMappingValue
  | .flowSequenceFirstEntry => parseFlowSequenceEntry true
  | .flowSequenceEntry => parseFlowSequenceEntry false
  | .flowSequenceEntryMappingKey => parseFlowSequenceEntryMappingKey
  | .flowSequenceEntryMappingValue => parseFlowSequenceEntryMappingValue
  | .flowSequenceEntryMappingEnd => parseFlowSequenceEntryMappingEnd
  | .flowMappingFirstKey => parseFlowMappingKey true
  | .flowMappingKey => parseFlowMappingKey false
  | .flowMappingValue => parseFlowMappingValue false
  | .flowMappingEmptyValue => parseFlowMappingValue true
  | .finished => pure ⟨.streamEnd, (← get).scanner.mark⟩

end Parser

end SwiftDevEnv.Yaml
