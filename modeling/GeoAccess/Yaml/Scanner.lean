import GeoAccess.Yaml.Token

/-!
# The token scanner

Turns markup text into tokens, on demand. Block structure is not written in
the text; the scanner infers it:

- Indentation. Each block collection opens at a column deeper than the
  current one (`indent`, with the enclosing ones on `indents`); a
  `BLOCK-SEQUENCE-START` or `BLOCK-MAPPING-START` opens it, and a token at a
  shallower column first closes the deeper blocks with `BLOCK-END`s. Flow
  collections (inside `[ ]` and `{ }`, `flowLevel > 0`) ignore indentation.
- Simple keys. A key is normally written without `?`: the scalar, alias,
  anchor, tag or flow collection before a `:` is a key. The scanner remembers
  where each token that could be a key started (one candidate per flow
  level, `keys`); when the `:` comes, it inserts `KEY` (and, in block
  context, the `BLOCK-MAPPING-START`) before the candidate. A candidate
  lapses at the end of its line or more than 1024 bytes on; a candidate that must
  be a key (one at the indentation of its block) cannot lapse.

So a token may be handed out only when no earlier candidate could still
become a key; `fetchMore` reads tokens until that holds.
-/

namespace GeoAccess.Yaml

/-- A token that could still turn out to be a mapping key. -/
structure SimpleKey where
  possible : Bool := false
  /-- Whether it must be a key: it stands at the indentation of its block. -/
  required : Bool := false
  /-- Its place among all tokens of the stream. -/
  tokenNumber : Nat := 0
  mark : Mark := {}
  deriving Repr, Inhabited

/-- The state of the scanner. -/
structure Scanner where
  cursor : Cursor
  /-- Tokens read and not yet handed out, first to hand out first. -/
  queue : List Token := []
  /-- How many tokens have been handed out. -/
  parsed : Nat := 0
  /-- Whether the head of the queue may be handed out. -/
  available : Bool := false
  started : Bool := false
  /-- Whether the end of the stream has been handed out. -/
  finished : Bool := false
  indent : Int := -1
  indents : List Int := []
  /-- Whether a simple key may start here. -/
  keyAllowed : Bool := false
  /-- One candidate key per flow level, innermost first. -/
  keys : List SimpleKey := []
  flowLevel : Nat := 0
  deriving Repr, Inhabited

namespace Scanner

/-- The number the next token read will have. -/
def nextNumber (s : Scanner) : Nat := s.parsed + s.queue.length

/-- Adds a token at the end of the queue. -/
def enqueue (s : Scanner) (t : Token) : Scanner := { s with queue := s.queue ++ [t] }

/-- Inserts a token so that it gets number `number`. -/
def insertAt (s : Scanner) (number : Nat) (t : Token) : Scanner :=
  let i := number - s.parsed
  { s with queue := s.queue.take i ++ t :: s.queue.drop i }

/-- The candidate key of the innermost flow level. -/
def topKey (s : Scanner) : SimpleKey := s.keys.headD {}

/-- Replaces the candidate key of the innermost flow level. -/
def setTopKey (s : Scanner) (k : SimpleKey) : Scanner :=
  match s.keys with
  | [] => s
  | _ :: ks => { s with keys := k :: ks }

/-- The failure of a candidate key that had to be a key. -/
def keyFailure (s : Scanner) (k : SimpleKey) : SyntaxError :=
  { problem := "could not find expected ':'", problemMark := s.cursor.mark,
    context := some ("while scanning a simple key", k.mark) }

/-- Drops the candidate key of the innermost flow level. -/
def removeKey (s : Scanner) : Except SyntaxError Scanner :=
  let k := s.topKey
  if k.possible && k.required then .error (s.keyFailure k)
  else .ok (s.setTopKey { k with possible := false })

/-- Makes the next token the candidate key of the innermost flow level, if a
key may start here. -/
def saveKey (s : Scanner) : Except SyntaxError Scanner :=
  if s.keyAllowed then
    let required := s.flowLevel == 0 && s.indent == (s.cursor.mark.column : Int)
    let k : SimpleKey :=
      { possible := true, required, tokenNumber := s.nextNumber, mark := s.cursor.mark }
    s.removeKey.map (·.setTopKey k)
  else .ok s

/-- Lapses the candidates left on an earlier line or too far back. -/
def lapseKeys (s : Scanner) : Except SyntaxError Scanner :=
  let m := s.cursor.mark
  let stale (k : SimpleKey) : Bool :=
    k.possible && (k.mark.line < m.line || k.mark.index + 1024 < m.index)
  match s.keys.reverse.find? (fun k => stale k && k.required) with
  | some k => .error (s.keyFailure k)
  | none => .ok { s with keys := s.keys.map fun k => if stale k then { k with possible := false } else k }

/-- Closes the blocks deeper than `column`. -/
def unrollIndent (column : Int) (s : Scanner) : Scanner :=
  if s.flowLevel > 0 then s else go s.indents.length s
where
  go : Nat → Scanner → Scanner
  | 0, s => s
  | n + 1, s =>
    match s.indents with
    | i :: is =>
      if s.indent > column then
        go n { s.enqueue (Token.at .blockEnd s.cursor.mark) with indent := i, indents := is }
      else s
    | [] => s

/-- Opens a block at `column` if it is deeper than the current one, with a
token at the end of the queue or, given a number, at that place. -/
def rollIndent (column : Nat) (number : Option Nat) (kind : TokenKind) (m : Mark) (s : Scanner) :
    Scanner :=
  if s.flowLevel > 0 || s.indent ≥ (column : Int) then s
  else
    let s := { s with indents := s.indent :: s.indents, indent := column }
    match number with
    | none => s.enqueue (Token.at kind m)
    | some n => s.insertAt n (Token.at kind m)

/-- Passes blanks, comments and line breaks up to the next token; a break in
block context allows a simple key. Tabs are passed only where a simple key
may not start or in flow context. -/
def skipToToken : Nat → Scanner → Scanner
  | 0, s => s
  | fuel + 1, s =>
    let c := s.cursor
    let c := if c.mark.column == 0 && c.check '\uFEFF' then c.skip else c
    let tabs := s.flowLevel > 0 || !s.keyAllowed
    let c := c.skipWhile fun ch => ch == ' ' || (tabs && ch == '\t')
    let c := if c.check '#' then c.skipWhile (fun ch => !isBreak ch) else c
    if c.isBreakHere then
      skipToToken fuel
        { s with cursor := c.skipLine, keyAllowed := if s.flowLevel == 0 then true else s.keyAllowed }
    else { s with cursor := c }

/-- A token of fixed width `n` at the cursor. -/
def single (s : Scanner) (kind : TokenKind) (n : Nat) : Scanner :=
  let c := s.cursor.skipN n
  { s.enqueue { kind, start := s.cursor.mark, stop := c.mark } with cursor := c }

/-- The end of the stream; it stands at the start of a line. -/
def fetchStreamEnd (s : Scanner) : Except SyntaxError Scanner := do
  let m := s.cursor.mark
  let m := if m.column != 0 then { m with column := 0, line := m.line + 1 } else m
  let s := { s with cursor := { s.cursor with mark := m } }
  let s ← (s.unrollIndent (-1)).removeKey
  return { s with keyAllowed := false }.enqueue (Token.at .streamEnd m)

/-- A `%` directive. -/
def fetchDirective (s : Scanner) : Except SyntaxError Scanner := do
  let s ← (s.unrollIndent (-1)).removeKey
  let (t, c) ← readDirective s.cursor
  return { s.enqueue t with keyAllowed := false, cursor := c }

/-- A document marker, `---` or `...`. -/
def fetchDocumentMarker (kind : TokenKind) (s : Scanner) : Except SyntaxError Scanner := do
  let s ← (s.unrollIndent (-1)).removeKey
  return { s with keyAllowed := false }.single kind 3

/-- The start of a flow collection, `[` or `{`. -/
def fetchFlowStart (kind : TokenKind) (s : Scanner) : Except SyntaxError Scanner := do
  let s ← s.saveKey
  let s := { s with flowLevel := s.flowLevel + 1, keys := {} :: s.keys, keyAllowed := true }
  return s.single kind 1

/-- The end of a flow collection, `]` or `}`. -/
def fetchFlowEnd (kind : TokenKind) (s : Scanner) : Except SyntaxError Scanner := do
  let s ← s.removeKey
  let s :=
    if s.flowLevel > 0 then { s with flowLevel := s.flowLevel - 1, keys := s.keys.tail } else s
  return { s with keyAllowed := false }.single kind 1

/-- The separator of flow entries, `,`. -/
def fetchFlowEntry (s : Scanner) : Except SyntaxError Scanner := do
  let s ← s.removeKey
  return { s with keyAllowed := true }.single .flowEntry 1

/-- A block sequence entry, `- `. -/
def fetchBlockEntry (s : Scanner) : Except SyntaxError Scanner := do
  let s ←
    if s.flowLevel == 0 then
      if !s.keyAllowed then
        throw (bareFailure "block sequence entries are not allowed in this context" s.cursor)
      else pure (s.rollIndent s.cursor.mark.column none .blockSequenceStart s.cursor.mark)
    else pure s
  let s ← s.removeKey
  return { s with keyAllowed := true }.single .blockEntry 1

/-- An explicit key, `? `. -/
def fetchKey (s : Scanner) : Except SyntaxError Scanner := do
  let s ←
    if s.flowLevel == 0 then
      if !s.keyAllowed then
        throw (bareFailure "mapping keys are not allowed in this context" s.cursor)
      else pure (s.rollIndent s.cursor.mark.column none .blockMappingStart s.cursor.mark)
    else pure s
  let s ← s.removeKey
  return { s with keyAllowed := s.flowLevel == 0 }.single .key 1

/-- A value, `: `: the candidate key, if there is one, becomes a key. -/
def fetchValue (s : Scanner) : Except SyntaxError Scanner := do
  let k := s.topKey
  let s ←
    if k.possible then
      let s := s.insertAt k.tokenNumber (Token.at .key k.mark)
      let s := s.rollIndent k.mark.column (some k.tokenNumber) .blockMappingStart k.mark
      pure { s.setTopKey { k with possible := false } with keyAllowed := false }
    else if s.flowLevel == 0 then
      if !s.keyAllowed then
        throw (bareFailure "mapping values are not allowed in this context" s.cursor)
      else
        let s := s.rollIndent s.cursor.mark.column none .blockMappingStart s.cursor.mark
        pure { s with keyAllowed := true }
    else pure { s with keyAllowed := false }
  return s.single .value 1

/-- A token read by one of the readers; it may be a key. -/
def fetchRead (s : Scanner) (read : Cursor → Except SyntaxError (Token × Cursor)) :
    Except SyntaxError Scanner := do
  let s ← s.saveKey
  let (t, c) ← read s.cursor
  return { s.enqueue t with keyAllowed := false, cursor := c }

/-- A block scalar, `|` or `>`. -/
def fetchBlockScalar (literal : Bool) (s : Scanner) : Except SyntaxError Scanner := do
  let s ← s.removeKey
  let (t, c) ← readBlockScalar literal s.indent s.cursor
  return { s.enqueue t with keyAllowed := true, cursor := c }

/-- A plain scalar; one that ended after a line break allows a simple key. -/
def fetchPlain (s : Scanner) : Except SyntaxError Scanner := do
  let s ← s.saveKey
  let (t, c, broke) ← readPlain s.flowLevel s.indent s.cursor
  return { s.enqueue t with keyAllowed := broke, cursor := c }

/-- Whether a plain scalar may start here. -/
def plainStarts (s : Scanner) (ch : Char) : Bool :=
  let c := s.cursor
  !(c.isBlankZ || "-?:,[]\x7b\x7d#&*!|>'\"%@`".contains ch) ||
    (ch == '-' && !c.blankAt 1) ||
    (s.flowLevel == 0 && (ch == '?' || ch == ':') && !c.blankZAt 1)

/-- Reads the next token, with the block ends before it. -/
def fetchNext (s : Scanner) : Except SyntaxError Scanner := do
  if !s.started then
    return { s with started := true, indent := -1, keys := [{}], keyAllowed := true }.enqueue
      (Token.at .streamStart s.cursor.mark)
  let s := skipToToken (s.cursor.rest.length + 1) s
  let s ← s.lapseKeys
  let s := s.unrollIndent s.cursor.mark.column
  let c := s.cursor
  match c.ahead 0 with
  | none => s.fetchStreamEnd
  | some ch =>
    if c.mark.column == 0 && ch == '%' then s.fetchDirective
    else if c.atDocumentMarker && ch == '-' then s.fetchDocumentMarker .documentStart
    else if c.atDocumentMarker && ch == '.' then s.fetchDocumentMarker .documentEnd
    else if ch == '[' then s.fetchFlowStart .flowSequenceStart
    else if ch == '{' then s.fetchFlowStart .flowMappingStart
    else if ch == ']' then s.fetchFlowEnd .flowSequenceEnd
    else if ch == '}' then s.fetchFlowEnd .flowMappingEnd
    else if ch == ',' then s.fetchFlowEntry
    else if ch == '-' && c.blankZAt 1 then s.fetchBlockEntry
    else if ch == '?' && (s.flowLevel > 0 || c.blankZAt 1) then s.fetchKey
    else if ch == ':' && (s.flowLevel > 0 || c.blankZAt 1) then s.fetchValue
    else if ch == '*' then s.fetchRead (readAnchor true)
    else if ch == '&' then s.fetchRead (readAnchor false)
    else if ch == '!' then s.fetchRead (readTag s.flowLevel)
    else if ch == '|' && s.flowLevel == 0 then s.fetchBlockScalar true
    else if ch == '>' && s.flowLevel == 0 then s.fetchBlockScalar false
    else if ch == '\'' then s.fetchRead (readQuoted true)
    else if ch == '"' then s.fetchRead (readQuoted false)
    else if s.plainStarts ch then s.fetchPlain
    else throw (scanFailure "while scanning for the next token" c.mark
      "found character that cannot start any token" c)

/-- Whether the head of the queue cannot be handed out yet: the queue is
empty, or a candidate key could still put a token before it. -/
def needsMore (s : Scanner) : Except SyntaxError (Bool × Scanner) :=
  if s.queue.isEmpty then .ok (true, s)
  else
    (s.lapseKeys).map fun s => (s.keys.any fun k => k.possible && k.tokenNumber == s.parsed, s)

/-- Reads tokens until the head of the queue may be handed out. Every read
passes at least one character, or is one of the stream's ends. -/
def fetchMore : Nat → Scanner → Except SyntaxError Scanner
  | 0, s => .ok { s with available := true }
  | fuel + 1, s => do
    let (more, s) ← s.needsMore
    if more then fetchMore fuel (← s.fetchNext) else pure { s with available := true }

/-- The next token. -/
def peek (s : Scanner) : Except SyntaxError (Token × Scanner) := do
  let s ← if s.available then pure s else fetchMore (s.cursor.rest.length + 8) s
  match s.queue with
  | t :: _ => pure (t, s)
  | [] => throw (bareFailure "did not find expected token" s.cursor)

/-- Hands out the next token. -/
def advance (s : Scanner) : Scanner :=
  match s.queue with
  | t :: ts =>
    { s with queue := ts, parsed := s.parsed + 1, available := false,
             finished := t.kind == .streamEnd }
  | [] => { s with available := false }

/-- A scanner at the start of a text. A leading byte order mark stays in the
text: it is passed like a blank before the first token, and so takes the
first column. -/
def ofString (text : String) : Scanner :=
  { cursor := { rest := text.toList } }

end Scanner

end GeoAccess.Yaml
