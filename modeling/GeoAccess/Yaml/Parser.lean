import GeoAccess.Yaml.Scanner

/-!
# The event parser

Turns the token stream into the events of the markup's grammar: the start
and end of the stream and of each document, scalars, aliases, and the start
and end of each sequence and mapping. It is a pushdown machine: `state` says
what may come next, `states` holds where to return after a nested node, and
`marks` holds where each open collection started, for its failures.

Every node may carry an anchor and a tag, in either order. A tag is
resolved against the document's `%TAG` directives and the two defaults
(`!` and `!!`, the latter standing for `tag:yaml.org,2002:`); a handle that
is none of them is refused. A missing node (a key with no value, an entry
with nothing after its `-`) is an empty plain scalar.
-/

namespace GeoAccess.Yaml

/-- What the parser expects next. -/
inductive ParseState where
  | streamStart
  | implicitDocumentStart
  | documentStart
  | documentContent
  | documentEnd
  | blockNode
  | blockNodeOrIndentlessSequence
  | flowNode
  | blockSequenceFirstEntry
  | blockSequenceEntry
  | indentlessSequenceEntry
  | blockMappingFirstKey
  | blockMappingKey
  | blockMappingValue
  | flowSequenceFirstEntry
  | flowSequenceEntry
  | flowSequenceEntryMappingKey
  | flowSequenceEntryMappingValue
  | flowSequenceEntryMappingEnd
  | flowMappingFirstKey
  | flowMappingKey
  | flowMappingValue
  | flowMappingEmptyValue
  | finished
  deriving DecidableEq, Repr, Inhabited

/-- The anchor and resolved tag a node carries. -/
structure NodeProps where
  anchor : Option String := none
  tag : Option Tag := none
  deriving DecidableEq, Repr, Inhabited

/-- An event of the grammar. -/
inductive EventKind where
  | streamStart
  | streamEnd
  | documentStart
  | documentEnd
  | alias (name : String)
  | scalar (props : NodeProps) (value : String) (style : ScalarStyle)
  | sequenceStart (props : NodeProps)
  | sequenceEnd
  | mappingStart (props : NodeProps)
  | mappingEnd
  deriving DecidableEq, Repr, Inhabited

/-- An event and where it starts. -/
structure Event where
  kind : EventKind
  start : Mark
  deriving Repr, Inhabited

/-- The tag handles every document knows. -/
def defaultTagDirectives : List (String × Tag) :=
  [("!", { text := "!" }), ("!!", { text := "tag:yaml.org,2002:" })]

/-- The state of the parser. -/
structure Parser where
  scanner : Scanner
  state : ParseState := .streamStart
  /-- Where to return after the current node, innermost first. -/
  states : List ParseState := []
  /-- Where each open collection started, innermost first. -/
  marks : List Mark := []
  /-- The tag handles of the current document and their prefixes. -/
  tagDirectives : List (String × Tag) := []
  deriving Repr, Inhabited

namespace Parser

/-- A failure at a position. -/
def failure (problem : String) (m : Mark) : SyntaxError := { problem, problemMark := m }

/-- A failure inside a construct that started at `from`. -/
def failureIn (context : String) (from_ : Mark) (problem : String) (m : Mark) : SyntaxError :=
  { problem, problemMark := m, context := some (context, from_) }

/-- The next token. -/
def peek (p : Parser) : Except SyntaxError (Token × Parser) :=
  (p.scanner.peek).map fun (t, s) => (t, { p with scanner := s })

/-- Passes the next token. -/
def skip (p : Parser) : Parser := { p with scanner := p.scanner.advance }

/-- Returns to the state saved for after the current node. -/
def pop (p : Parser) : Parser :=
  { p with state := p.states.headD .finished, states := p.states.tail }

/-- Saves a state to return to. -/
def push (p : Parser) (s : ParseState) : Parser := { p with states := s :: p.states }

/-- Closes the innermost open collection's start position. -/
def popMark (p : Parser) : Mark × Parser := (p.marks.headD {}, { p with marks := p.marks.tail })

/-- An empty plain scalar at a position. -/
def emptyScalar (m : Mark) : Event := { kind := .scalar {} "" .plain, start := m }

/-- Whether a token ends an entry of an indentless sequence. -/
def endsEntry : TokenKind → Bool
  | .blockEntry | .key | .value | .blockEnd => true
  | _ => false

/-- Adds a `%TAG` directive; a handle given twice is refused unless `quiet`,
in which case the first stays. -/
def addTagDirective (p : Parser) (handle : String) (pfx : Tag) (quiet : Bool) (m : Mark) :
    Except SyntaxError Parser :=
  if p.tagDirectives.any (·.1 == handle) then
    if quiet then .ok p else .error (failure "found duplicate %TAG directive" m)
  else .ok { p with tagDirectives := p.tagDirectives ++ [(handle, pfx)] }

/-- Reads the directives before a document, then adds the default handles. -/
def processDirectives : Nat → Bool → Parser → Except SyntaxError Parser
  | 0, _, p => .ok p
  | fuel + 1, seenVersion, p => do
    let (t, p) ← p.peek
    match t.kind with
    | .versionDirective major minor =>
      if seenVersion then throw (failure "found duplicate %YAML directive" t.start)
      if major != 1 || (minor != 1 && minor != 2) then
        throw (failure "found incompatible YAML document" t.start)
      processDirectives fuel true p.skip
    | .tagDirective handle pfx =>
      let p ← p.addTagDirective handle pfx false t.start
      processDirectives fuel seenVersion p.skip
    | _ =>
      let p ← p.addTagDirective "!" { text := "!" } true t.start
      p.addTagDirective "!!" { text := "tag:yaml.org,2002:" } true t.start

/-- The directives of a document, at most one per token left. -/
def directives (p : Parser) : Except SyntaxError Parser :=
  processDirectives (p.scanner.cursor.rest.length + p.scanner.queue.length + 2) false p

/-- Passes `...` markers before a document. -/
def skipDocumentEnds : Nat → Parser → Except SyntaxError (Token × Parser)
  | 0, p => p.peek
  | fuel + 1, p => do
    let (t, p) ← p.peek
    if t.kind == .documentEnd then skipDocumentEnds fuel p.skip else pure (t, p)

/-- The start of a document, or the end of the stream. -/
def documentStart (implicit : Bool) (p : Parser) : Except SyntaxError (Event × Parser) := do
  let (t, p) ←
    if implicit then p.peek
    else skipDocumentEnds (p.scanner.cursor.rest.length + p.scanner.queue.length + 2) p
  let opensExplicitly := match t.kind with
    | .versionDirective .. | .tagDirective .. | .documentStart | .streamEnd => true
    | _ => false
  if implicit && !opensExplicitly then
    let p ← p.directives
    pure ({ kind := .documentStart, start := t.start },
      { p.push .documentEnd with state := .blockNode })
  else if t.kind != .streamEnd then
    let p ← p.directives
    let (t', p) ← p.peek
    if t'.kind != .documentStart then
      throw (failure "did not find expected <document start>" t'.start)
    pure ({ kind := .documentStart, start := t.start },
      { (p.push .documentEnd).skip with state := .documentContent })
  else
    pure ({ kind := .streamEnd, start := t.start }, { p.skip with state := .finished })

/-- The end of a document, explicit or not. -/
def documentEnd (p : Parser) : Except SyntaxError (Event × Parser) := do
  let (t, p) ← p.peek
  let p := if t.kind == .documentEnd then p.skip else p
  pure ({ kind := .documentEnd, start := t.start },
    { p with tagDirectives := [], state := .documentStart })

/-- Resolves a tag's handle against the document's directives. -/
def resolveTag (p : Parser) (handle : String) (suffix : Tag) (nodeStart tagMark : Mark) :
    Except SyntaxError Tag :=
  if handle.isEmpty then .ok suffix
  else
    match p.tagDirectives.find? (·.1 == handle) with
    | some (_, pfx) => .ok (pfx.append suffix)
    | none => .error (failureIn "while parsing a node" nodeStart "found undefined tag handle" tagMark)

/-- A node: an alias, or a scalar or collection with its anchor and tag.
`block` allows block collections; `indentless` allows a sequence whose `-`
entries stand at the indentation of the enclosing mapping. -/
def node (block indentless : Bool) (p : Parser) : Except SyntaxError (Event × Parser) := do
  let (t, p) ← p.peek
  match t.kind with
  | .alias name => pure ({ kind := .alias name, start := t.start }, p.skip.pop)
  | _ =>
    -- the anchor and the tag, in either order
    let (anchor, tag, start, p) ← match t.kind with
      | .anchor name => do
        let (t2, p2) ← p.skip.peek
        match t2.kind with
        | .tag h s => pure (some name, some (h, s, t2.start), t.start, p2.skip)
        | _ => pure (some name, none, t.start, p2)
      | .tag h s => do
        let (t2, p2) ← p.skip.peek
        match t2.kind with
        | .anchor name => pure (some name, some (h, s, t.start), t.start, p2.skip)
        | _ => pure (none, some (h, s, t.start), t.start, p2)
      | _ => pure (none, none, t.start, p)
    let tag ← match tag with
      | some (h, s, m) => (p.resolveTag h s start m).map some
      | none => pure none
    let props : NodeProps := { anchor, tag }
    let (t, p) ← p.peek
    match t.kind with
    | .blockEntry =>
      if indentless then
        pure ({ kind := .sequenceStart props, start }, { p with state := .indentlessSequenceEntry })
      else if anchor.isSome || tag.isSome then
        pure ({ kind := .scalar props "" .plain, start }, p.pop)
      else throw (failureIn (if block then "while parsing a block node" else "while parsing a flow node")
        start "did not find expected node content" t.start)
    | .scalar value style =>
      pure ({ kind := .scalar props value style, start }, p.skip.pop)
    | .flowSequenceStart =>
      pure ({ kind := .sequenceStart props, start }, { p with state := .flowSequenceFirstEntry })
    | .flowMappingStart =>
      pure ({ kind := .mappingStart props, start }, { p with state := .flowMappingFirstKey })
    | .blockSequenceStart =>
      if block then
        pure ({ kind := .sequenceStart props, start }, { p with state := .blockSequenceFirstEntry })
      else if anchor.isSome || tag.isSome then
        pure ({ kind := .scalar props "" .plain, start }, p.pop)
      else throw (failureIn "while parsing a flow node" start "did not find expected node content" t.start)
    | .blockMappingStart =>
      if block then
        pure ({ kind := .mappingStart props, start }, { p with state := .blockMappingFirstKey })
      else if anchor.isSome || tag.isSome then
        pure ({ kind := .scalar props "" .plain, start }, p.pop)
      else throw (failureIn "while parsing a flow node" start "did not find expected node content" t.start)
    | _ =>
      if anchor.isSome || tag.isSome then
        pure ({ kind := .scalar props "" .plain, start }, p.pop)
      else throw (failureIn (if block then "while parsing a block node" else "while parsing a flow node")
        start "did not find expected node content" t.start)

/-- Opens a collection: remembers where its start token stands and passes it. -/
def openCollection (first : Bool) (p : Parser) : Except SyntaxError Parser :=
  if first then (p.peek).map fun (t, p) => { p.skip with marks := t.start :: p.marks }
  else .ok p

/-- An entry of a block sequence, or its end. -/
def blockSequenceEntry (first : Bool) (p : Parser) : Except SyntaxError (Event × Parser) := do
  let p ← p.openCollection first
  let (t, p) ← p.peek
  match t.kind with
  | .blockEntry =>
    let (t2, p2) ← p.skip.peek
    if t2.kind == .blockEntry || t2.kind == .blockEnd then
      pure (emptyScalar t.stop, { p2 with state := .blockSequenceEntry })
    else node true false (p2.push .blockSequenceEntry)
  | .blockEnd =>
    let (_, p) := p.popMark
    pure ({ kind := .sequenceEnd, start := t.start }, p.skip.pop)
  | _ =>
    let (m, _) := p.popMark
    throw (failureIn "while parsing a block collection" m "did not find expected '-' indicator" t.start)

/-- An entry of a sequence written at its mapping's indentation, or its end. -/
def indentlessSequenceEntry (p : Parser) : Except SyntaxError (Event × Parser) := do
  let (t, p) ← p.peek
  if t.kind == .blockEntry then
    let (t2, p2) ← p.skip.peek
    if endsEntry t2.kind then
      pure (emptyScalar t.stop, { p2 with state := .indentlessSequenceEntry })
    else node true false (p2.push .indentlessSequenceEntry)
  else pure ({ kind := .sequenceEnd, start := t.start }, p.pop)

/-- A key of a block mapping, or its end. -/
def blockMappingKey (first : Bool) (p : Parser) : Except SyntaxError (Event × Parser) := do
  let p ← p.openCollection first
  let (t, p) ← p.peek
  match t.kind with
  | .key =>
    let (t2, p2) ← p.skip.peek
    if t2.kind == .key || t2.kind == .value || t2.kind == .blockEnd then
      pure (emptyScalar t.stop, { p2 with state := .blockMappingValue })
    else node true true (p2.push .blockMappingValue)
  | .blockEnd =>
    let (_, p) := p.popMark
    pure ({ kind := .mappingEnd, start := t.start }, p.skip.pop)
  | _ =>
    let (m, _) := p.popMark
    throw (failureIn "while parsing a block mapping" m "did not find expected key" t.start)

/-- A value of a block mapping; a key with no `:` has an empty value. -/
def blockMappingValue (p : Parser) : Except SyntaxError (Event × Parser) := do
  let (t, p) ← p.peek
  if t.kind == .value then
    let (t2, p2) ← p.skip.peek
    if t2.kind == .key || t2.kind == .value || t2.kind == .blockEnd then
      pure (emptyScalar t.stop, { p2 with state := .blockMappingKey })
    else node true true (p2.push .blockMappingKey)
  else pure (emptyScalar t.start, { p with state := .blockMappingKey })

/-- An entry of a flow sequence, or its end; a `key: value` entry is a
mapping of one pair. -/
def flowSequenceEntry (first : Bool) (p : Parser) : Except SyntaxError (Event × Parser) := do
  let p ← p.openCollection first
  let (t, p) ← p.peek
  let closing (t : Token) (p : Parser) : Event × Parser :=
    let (_, p) := p.popMark
    ({ kind := .sequenceEnd, start := t.start }, p.skip.pop)
  if t.kind == .flowSequenceEnd then return closing t p
  let (t, p) ←
    if first then pure (t, p)
    else if t.kind == .flowEntry then p.skip.peek
    else
      let (m, _) := p.popMark
      throw (failureIn "while parsing a flow sequence" m "did not find expected ',' or ']'" t.start)
  if t.kind == .key then
    pure ({ kind := .mappingStart {}, start := t.start },
      { p.skip with state := .flowSequenceEntryMappingKey })
  else if t.kind == .flowSequenceEnd then return closing t p
  else node false false (p.push .flowSequenceEntry)

/-- The key of a one-pair mapping in a flow sequence. -/
def flowSequenceEntryMappingKey (p : Parser) : Except SyntaxError (Event × Parser) := do
  let (t, p) ← p.peek
  if t.kind == .value || t.kind == .flowEntry || t.kind == .flowSequenceEnd then
    pure (emptyScalar t.start, { p with state := .flowSequenceEntryMappingValue })
  else node false false (p.push .flowSequenceEntryMappingValue)

/-- The value of a one-pair mapping in a flow sequence. -/
def flowSequenceEntryMappingValue (p : Parser) : Except SyntaxError (Event × Parser) := do
  let (t, p) ← p.peek
  if t.kind == .value then
    let (t2, p2) ← p.skip.peek
    if t2.kind == .flowEntry || t2.kind == .flowSequenceEnd then
      pure (emptyScalar t2.start, { p2 with state := .flowSequenceEntryMappingEnd })
    else node false false (p2.push .flowSequenceEntryMappingEnd)
  else pure (emptyScalar t.start, { p with state := .flowSequenceEntryMappingEnd })

/-- The end of a one-pair mapping in a flow sequence. -/
def flowSequenceEntryMappingEnd (p : Parser) : Except SyntaxError (Event × Parser) := do
  let (t, p) ← p.peek
  pure ({ kind := .mappingEnd, start := t.start }, { p with state := .flowSequenceEntry })

/-- A key of a flow mapping, or its end. -/
def flowMappingKey (first : Bool) (p : Parser) : Except SyntaxError (Event × Parser) := do
  let p ← p.openCollection first
  let (t, p) ← p.peek
  let closing (t : Token) (p : Parser) : Event × Parser :=
    let (_, p) := p.popMark
    ({ kind := .mappingEnd, start := t.start }, p.skip.pop)
  if t.kind == .flowMappingEnd then return closing t p
  let (t, p) ←
    if first then pure (t, p)
    else if t.kind == .flowEntry then p.skip.peek
    else
      let (m, _) := p.popMark
      throw (failureIn "while parsing a flow mapping" m "did not find expected ',' or '\x7d'" t.start)
  if t.kind == .key then
    let (t2, p2) ← p.skip.peek
    if t2.kind == .value || t2.kind == .flowEntry || t2.kind == .flowMappingEnd then
      pure (emptyScalar t2.start, { p2 with state := .flowMappingValue })
    else node false false (p2.push .flowMappingValue)
  else if t.kind == .flowMappingEnd then return closing t p
  else node false false (p.push .flowMappingEmptyValue)

/-- A value of a flow mapping; `empty` when the key stood alone. -/
def flowMappingValue (empty : Bool) (p : Parser) : Except SyntaxError (Event × Parser) := do
  let (t, p) ← p.peek
  if empty then return (emptyScalar t.start, { p with state := .flowMappingKey })
  if t.kind == .value then
    let (t2, p2) ← p.skip.peek
    if t2.kind == .flowEntry || t2.kind == .flowMappingEnd then
      pure (emptyScalar t2.start, { p2 with state := .flowMappingKey })
    else node false false (p2.push .flowMappingKey)
  else pure (emptyScalar t.start, { p with state := .flowMappingKey })

/-- The next event; `none` once the stream has ended. -/
def next (p : Parser) : Except SyntaxError (Option (Event × Parser)) :=
  let some' (r : Except SyntaxError (Event × Parser)) := r.map some
  match p.state with
  | .finished => .ok none
  | .streamStart => do
    let (t, p) ← p.peek
    if t.kind != .streamStart then throw (failure "did not find expected <stream-start>" t.start)
    pure (some ({ kind := .streamStart, start := t.start }, { p.skip with state := .implicitDocumentStart }))
  | .implicitDocumentStart => some' (documentStart true p)
  | .documentStart => some' (documentStart false p)
  | .documentContent => do
    let (t, p) ← p.peek
    match t.kind with
    | .versionDirective .. | .tagDirective .. | .documentStart | .documentEnd | .streamEnd =>
      pure (some (emptyScalar t.start, p.pop))
    | _ => some' (node true false p)
  | .documentEnd => some' (documentEnd p)
  | .blockNode => some' (node true false p)
  | .blockNodeOrIndentlessSequence => some' (node true true p)
  | .flowNode => some' (node false false p)
  | .blockSequenceFirstEntry => some' (blockSequenceEntry true p)
  | .blockSequenceEntry => some' (blockSequenceEntry false p)
  | .indentlessSequenceEntry => some' (indentlessSequenceEntry p)
  | .blockMappingFirstKey => some' (blockMappingKey true p)
  | .blockMappingKey => some' (blockMappingKey false p)
  | .blockMappingValue => some' (blockMappingValue p)
  | .flowSequenceFirstEntry => some' (flowSequenceEntry true p)
  | .flowSequenceEntry => some' (flowSequenceEntry false p)
  | .flowSequenceEntryMappingKey => some' (flowSequenceEntryMappingKey p)
  | .flowSequenceEntryMappingValue => some' (flowSequenceEntryMappingValue p)
  | .flowSequenceEntryMappingEnd => some' (flowSequenceEntryMappingEnd p)
  | .flowMappingFirstKey => some' (flowMappingKey true p)
  | .flowMappingKey => some' (flowMappingKey false p)
  | .flowMappingValue => some' (flowMappingValue false p)
  | .flowMappingEmptyValue => some' (flowMappingValue true p)

/-- A parser at the start of a text. -/
def ofString (text : String) : Parser := { scanner := Scanner.ofString text }

end Parser

end GeoAccess.Yaml
