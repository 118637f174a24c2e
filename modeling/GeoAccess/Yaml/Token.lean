import GeoAccess.Yaml.Cursor

/-!
# Tokens of the markup

The token stream of a markup text, and the readers of the tokens that carry
text of their own: scalars in the five styles, anchors and aliases, tags and
directives. Each reader starts at the token's indicator and hands back the
token with the rest of the text, or the syntax error that stopped it.

Scalars fold as the markup says:
- a plain scalar ends at `: `, at ` #`, at a line starting a document
  marker, at a line indented less than the current block (in block context),
  and at a flow indicator (in flow context); its line breaks fold to a space,
  or to the breaks after the first;
- a quoted scalar folds the same way and keeps blanks around the text on one
  line; the double-quoted style has escapes;
- a block scalar (`|` literal, `>` folded) takes its indentation from its
  first non-empty line, or from an indicator, and chomps its final breaks
  (`-` strips, `+` keeps, otherwise one stays).
-/

namespace GeoAccess.Yaml

/-- How a scalar was written. -/
inductive ScalarStyle where
  | plain
  | singleQuoted
  | doubleQuoted
  | literal
  | folded
  deriving DecidableEq, Repr, Inhabited

/-- A tag, or a tag prefix, as written: its characters with each `%XX`
escape run decoded. A run is taken as one UTF-8 sequence by the form of its
lead and trail bytes only, so it may not decode (an overlong form, a
surrogate, a code point past U+10FFFF); such a run stands as U+FFFD in
`text`, and the tag's bytes are then no UTF-8 text (`decodes` is false).
A tag is kept as a NUL-terminated string, so it ends at a `%00` escape: what
follows is read but is not part of it. -/
structure Tag where
  text : String
  decodes : Bool := true
  deriving DecidableEq, Repr, Inhabited

/-- A tag followed by another: its bytes decode when both parts do. -/
def Tag.append (a b : Tag) : Tag := { text := a.text ++ b.text, decodes := a.decodes && b.decodes }

/-- What a token is. -/
inductive TokenKind where
  | streamStart
  | streamEnd
  | versionDirective (major minor : Nat)
  | tagDirective (handle : String) (pfx : Tag)
  | documentStart
  | documentEnd
  | blockSequenceStart
  | blockMappingStart
  | blockEnd
  | flowSequenceStart
  | flowSequenceEnd
  | flowMappingStart
  | flowMappingEnd
  | blockEntry
  | flowEntry
  | key
  | value
  | alias (name : String)
  | anchor (name : String)
  | tag (handle : String) (suffix : Tag)
  | scalar (text : String) (style : ScalarStyle)
  deriving DecidableEq, Repr, Inhabited

/-- A token with the positions of its first character and of the one after
its last. -/
structure Token where
  kind : TokenKind
  start : Mark
  stop : Mark
  deriving DecidableEq, Repr, Inhabited

/-- A token at one position. -/
def Token.at (kind : TokenKind) (m : Mark) : Token := { kind, start := m, stop := m }

/-- A failure found while reading a construct that started at `from`; the
problem is at the cursor. -/
def scanFailure (context : String) (from_ : Mark) (problem : String) (c : Cursor) : SyntaxError :=
  { problem, problemMark := c.mark, context := some (context, from_) }

/-- A failure with no enclosing construct. -/
def bareFailure (problem : String) (c : Cursor) : SyntaxError :=
  { problem, problemMark := c.mark }

/-- Whether a document marker (`---` or `...` followed by a blank) starts at
the cursor, at the start of a line. -/
def Cursor.atDocumentMarker (c : Cursor) : Bool :=
  c.mark.column == 0 &&
    ((c.checkAt 0 '-' && c.checkAt 1 '-' && c.checkAt 2 '-') ||
      (c.checkAt 0 '.' && c.checkAt 1 '.' && c.checkAt 2 '.')) && c.blankZAt 3

/-- Passes characters while `p` holds of them. -/
def Cursor.skipWhile (p : Char → Bool) : Cursor → Cursor
  | ⟨[], m⟩ => ⟨[], m⟩
  | ⟨ch :: rest, m⟩ =>
    if p ch then Cursor.skipWhile p ⟨rest, m.pass ch⟩
    else ⟨ch :: rest, m⟩
termination_by c => c.rest.length

/-- Reads characters while `p` holds of them. -/
def Cursor.readWhile (p : Char → Bool) : Cursor → String × Cursor
  | ⟨[], m⟩ => ("", ⟨[], m⟩)
  | ⟨ch :: rest, m⟩ =>
    if p ch then
      let (s, c) := Cursor.readWhile p ⟨rest, m.pass ch⟩
      (ch.toString ++ s, c)
    else ("", ⟨ch :: rest, m⟩)
termination_by c => c.rest.length

/-- Passes blanks and a comment up to the end of the line. -/
def Cursor.skipToLineEnd (c : Cursor) : Cursor :=
  let c := c.skipWhile isBlank
  if c.check '#' then c.skipWhile (fun ch => !isBreak ch) else c

/-! ## Anchors and aliases -/

/-- Reads an anchor (`&name`) or an alias (`*name`): word characters,
followed by a blank, the end or one of `?:,]}%@` and the backquote. -/
def readAnchor (isAlias : Bool) (c : Cursor) : Except SyntaxError (Token × Cursor) :=
  let start := c.mark
  let (name, c) := c.skip.readWhile isWordChar
  let ends := c.isBlankZ || (c.ahead 0).any fun ch => "?:,]\x7d%@`".contains ch
  if name.isEmpty || !ends then
    .error (scanFailure (if isAlias then "while scanning an alias" else "while scanning an anchor")
      start "did not find expected alphabetic or numeric character" c)
  else
    let kind := if isAlias then TokenKind.alias name else .anchor name
    .ok ({ kind, start, stop := c.mark }, c)

/-! ## Tags -/

/-- The context of a failure inside a tag or a tag directive. -/
def tagContext (directive : Bool) : String :=
  if directive then "while parsing a %TAG directive" else "while parsing a tag"

/-- The length of a UTF-8 sequence from its first byte, 0 for a byte that
cannot start one. -/
def utf8Width (b : Nat) : Nat :=
  if b < 0x80 then 1 else if b / 32 = 6 then 2 else if b / 16 = 14 then 3
  else if b / 8 = 30 then 4 else 0

/-- Reads the `%XX` escapes of one UTF-8 encoded character. -/
def readUriEscapes (directive : Bool) (start : Mark) (c : Cursor) :
    Except SyntaxError (List UInt8 × Cursor) :=
  go 4 0 c
where
  go : Nat → Nat → Cursor → Except SyntaxError (List UInt8 × Cursor)
  | 0, _, c => .ok ([], c)
  | fuel + 1, width, c =>
    match c.ahead 0, c.ahead 1, c.ahead 2 with
    | some '%', some h, some l =>
      if isHexDigit h && isHexDigit l then
        let octet := hexValue h * 16 + hexValue l
        let width' := if width = 0 then utf8Width octet else width
        if width = 0 && width' = 0 then
          .error (scanFailure (tagContext directive) start "found an incorrect leading UTF-8 octet" c)
        else if width ≠ 0 && octet / 64 ≠ 2 then
          .error (scanFailure (tagContext directive) start "found an incorrect trailing UTF-8 octet" c)
        else
          let c := c.skipN 3
          if width' ≤ 1 then .ok ([octet.toUInt8], c)
          else (go fuel (width' - 1) c).map fun (bs, c) => (octet.toUInt8 :: bs, c)
      else .error (scanFailure (tagContext directive) start "did not find URI escaped octet" c)
    | _, _, _ => .error (scanFailure (tagContext directive) start "did not find URI escaped octet" c)

/-- A character a tag may hold; in a verbatim tag also `,`, `[` and `]`. -/
def isUriChar (verbatim : Bool) (ch : Char) : Bool :=
  isWordChar ch || ";/?:@&=+$.%!~*'()".contains ch || (verbatim && ",[]".contains ch)

/-- The part of a tag an escape run stands for. -/
def Tag.ofBytes (bytes : List UInt8) : Tag :=
  match String.fromUTF8? (ByteArray.mk bytes.toArray) with
  | some s => { text := s }
  | none => { text := "\uFFFD", decodes := false }

/-- Reads the text of a tag after `head` (whose leading `!` is dropped); once
a NUL byte has ended the tag (`ended`), the rest is read and left out. -/
def readTagUri (verbatim directive : Bool) (head : String) (start : Mark) (c : Cursor) :
    Except SyntaxError (Tag × Cursor) :=
  go (c.rest.length + 1) { text := (head.drop 1).toString } false head.length c
where
  go : Nat → Tag → Bool → Nat → Cursor → Except SyntaxError (Tag × Cursor)
  | 0, s, _, n, c => finish s n c
  | fuel + 1, s, ended, n, c =>
    match c.ahead 0 with
    | some ch =>
      if isUriChar verbatim ch then
        if ch == '%' then
          match readUriEscapes directive start c with
          | .ok (bytes, c) =>
            if ended then go fuel s true (n + 1) c
            else if bytes == [0] then go fuel s true (n + 1) c
            else go fuel (s.append (Tag.ofBytes bytes)) false (n + 1) c
          | .error e => .error e
        else if ended then go fuel s true (n + 1) c.skip
        else go fuel { s with text := s.text.push ch } false (n + 1) c.skip
      else finish s n c
    | none => finish s n c
  finish (s : Tag) (n : Nat) (c : Cursor) : Except SyntaxError (Tag × Cursor) :=
    if n = 0 then .error (scanFailure (tagContext directive) start "did not find expected tag URI" c)
    else .ok (s, c)

/-- Reads a tag handle: `!`, then word characters, then `!` if there is one. -/
def readTagHandle (directive : Bool) (start : Mark) (c : Cursor) :
    Except SyntaxError (String × Cursor) :=
  if !c.check '!' then
    .error (scanFailure (if directive then "while scanning a tag directive" else "while scanning a tag")
      start "did not find expected '!'" c)
  else
    let (word, c) := c.skip.readWhile isWordChar
    if c.check '!' then .ok ("!" ++ word ++ "!", c.skip)
    else if directive && !word.isEmpty then
      .error (scanFailure "while parsing a tag directive" start "did not find expected '!'" c)
    else .ok ("!" ++ word, c)

/-- Reads a tag: verbatim `!<uri>`, `!handle!suffix`, `!suffix` or `!`. -/
def readTag (flowLevel : Nat) (c : Cursor) : Except SyntaxError (Token × Cursor) := do
  let start := c.mark
  let (handle, suffix, c) ← if c.checkAt 1 '<' then do
      let (suffix, c) ← readTagUri true false "" start (c.skipN 2)
      if !c.check '>' then
        throw (scanFailure "while scanning a tag" start "did not find the expected '>'" c)
      pure ("", suffix, c.skip)
    else do
      let (handle, c) ← readTagHandle false start c
      if handle.length > 1 && handle.startsWith "!" && handle.endsWith "!" then
        let (suffix, c) ← readTagUri false false "" start c
        pure (handle, suffix, c)
      else
        let (suffix, c) ← readTagUri false false handle start c
        if suffix.text.isEmpty then pure ("", { text := "!" }, c) else pure ("!", suffix, c)
  if !c.isBlankZ && !(flowLevel > 0 && c.check ',') then
    throw (scanFailure "while scanning a tag" start "did not find expected whitespace or line break" c)
  return ({ kind := .tag handle suffix, start, stop := c.mark }, c)

/-! ## Directives -/

/-- Reads a number of a `%YAML` directive: at most nine digits. -/
def readVersionNumber (start : Mark) (c : Cursor) : Except SyntaxError (Nat × Cursor) :=
  go 10 0 0 c
where
  go : Nat → Nat → Nat → Cursor → Except SyntaxError (Nat × Cursor)
  | 0, v, _, c => .ok (v, c)
  | fuel + 1, v, n, c =>
    match c.ahead 0 with
    | some ch =>
      if ch.isDigit then
        if n + 1 > 9 then
          .error (scanFailure "while scanning a %YAML directive" start "found extremely long version number" c)
        else go fuel (v * 10 + (ch.toNat - '0'.toNat)) (n + 1) c.skip
      else finish v n c
    | none => finish v n c
  finish (v n : Nat) (c : Cursor) : Except SyntaxError (Nat × Cursor) :=
    if n = 0 then
      .error (scanFailure "while scanning a %YAML directive" start "did not find expected version number" c)
    else .ok (v, c)

/-- Reads a directive: `%YAML major.minor` or `%TAG handle prefix`, then the
rest of the line. -/
def readDirective (c : Cursor) : Except SyntaxError (Token × Cursor) := do
  let start := c.mark
  let (name, c) := c.skip.readWhile isWordChar
  if name.isEmpty then
    throw (scanFailure "while scanning a directive" start "could not find expected directive name" c)
  if !c.isBlankZ then
    throw (scanFailure "while scanning a directive" start "found unexpected non-alphabetical character" c)
  let (kind, c) ← match name with
    | "YAML" => do
      let c := c.skipWhile isBlank
      let (major, c) ← readVersionNumber start c
      if !c.check '.' then
        throw (scanFailure "while scanning a %YAML directive" start
          "did not find expected digit or '.' character" c)
      let (minor, c) ← readVersionNumber start c.skip
      pure (TokenKind.versionDirective major minor, c)
    | "TAG" => do
      let c := c.skipWhile isBlank
      let (handle, c) ← readTagHandle true start c
      if !c.isBlankHere then
        throw (scanFailure "while scanning a %TAG directive" start "did not find expected whitespace" c)
      let c := c.skipWhile isBlank
      let (pfx, c) ← readTagUri true true "" start c
      if !c.isBlankZ then
        throw (scanFailure "while scanning a %TAG directive" start
          "did not find expected whitespace or line break" c)
      pure (TokenKind.tagDirective handle pfx, c)
    | _ => throw (scanFailure "while scanning a directive" start "found unknown directive name" c)
  let stop := c.mark
  let c := c.skipToLineEnd
  if !c.isBreakZ then
    throw (scanFailure "while scanning a directive" start "did not find expected comment or line break" c)
  return ({ kind, start, stop }, c.skipLine)

/-! ## Folding of blanks and breaks -/

/-- The text of a scalar being read and the blanks and breaks not yet joined
to it. -/
structure Folding where
  text : String := ""
  /-- The first break after the text, once blanks started a new line. -/
  leadingBreak : String := ""
  /-- The breaks after the first. -/
  trailingBreaks : String := ""
  /-- Blanks on the line of the text. -/
  whitespaces : String := ""
  /-- Whether a line break was met since the last text. -/
  leadingBlanks : Bool := false
  deriving Repr, Inhabited

namespace Folding

/-- Joins the pending blanks and breaks to the text: one break folds to a
space, several to the breaks after the first; blanks on the line stay. -/
def join (f : Folding) : Folding :=
  if f.leadingBlanks then
    let text :=
      if f.leadingBreak.startsWith "\n" then
        if f.trailingBreaks.isEmpty then f.text ++ " " else f.text ++ f.trailingBreaks
      else f.text ++ f.leadingBreak ++ f.trailingBreaks
    { text, leadingBreak := "", trailingBreaks := "", whitespaces := f.whitespaces,
      leadingBlanks := false }
  else { f with text := f.text ++ f.whitespaces, whitespaces := "" }

/-- Reads one blank or line break after the text: blanks on the text's line
are kept aside, blanks after a break are passed, the first break is kept
aside and later ones are collected. -/
def absorb (f : Folding) (c : Cursor) : Folding × Cursor :=
  if c.isBlankHere then
    if f.leadingBlanks then (f, c.skip)
    else
      let (s, c) := c.read
      ({ f with whitespaces := f.whitespaces ++ s }, c)
  else if f.leadingBlanks then
    let (s, c) := c.readLine
    ({ f with trailingBreaks := f.trailingBreaks ++ s }, c)
  else
    let (s, c) := c.readLine
    ({ f with whitespaces := "", leadingBreak := s, leadingBlanks := true }, c)

end Folding

/-! ## Quoted scalars -/

/-- The character of a one-letter escape of the double-quoted style. -/
def simpleEscape : Char → Option Char
  | '0' => some '\x00'
  | 'a' => some '\x07'
  | 'b' => some '\x08'
  | 't' => some '\t'
  | '\t' => some '\t'
  | 'n' => some '\n'
  | 'v' => some '\x0b'
  | 'f' => some '\x0c'
  | 'r' => some '\r'
  | 'e' => some '\x1b'
  | ' ' => some ' '
  | '"' => some '"'
  | '/' => some '/'
  | '\'' => some '\''
  | '\\' => some '\\'
  | 'N' => some '\x85'
  | '_' => some '\xa0'
  | 'L' => some '\u2028'
  | 'P' => some '\u2029'
  | _ => none

/-- The number of hex digits of a numeric escape. -/
def codeLength : Char → Nat
  | 'x' => 2
  | 'u' => 4
  | 'U' => 8
  | _ => 0

/-- Reads `n` hex digits. -/
def readHex (start : Mark) (c : Cursor) : Nat → Except SyntaxError Nat
  | 0 => .ok 0
  | n + 1 =>
    let rec digits : Nat → Nat → Except SyntaxError Nat
      | 0, acc => .ok acc
      | k + 1, acc =>
        match c.ahead (n + 1 - (k + 1)) with
        | some ch =>
          if isHexDigit ch then digits k (acc * 16 + hexValue ch)
          else .error (scanFailure "while parsing a quoted scalar" start
            "did not find expected hexadecimal number" c)
        | none => .error (scanFailure "while parsing a quoted scalar" start
            "did not find expected hexadecimal number" c)
    digits (n + 1) 0

/-- Reads the characters of a quoted scalar up to a blank, a break, the end
or the closing quote. Answers whether an escaped line break ended the run. -/
def readQuotedRun (single : Bool) (start : Mark) :
    Nat → Folding → Cursor → Except SyntaxError (Folding × Cursor)
  | 0, f, c => .ok (f, c)
  | fuel + 1, f, c =>
    if c.isBlankZ then .ok (f, c)
    else if single && c.check '\'' && c.checkAt 1 '\'' then
      readQuotedRun single start fuel { f with text := f.text.push '\'' } (c.skipN 2)
    else if c.check (if single then '\'' else '"') then .ok (f, c)
    else if !single && c.check '\\' && c.breakAt 1 then
      .ok ({ f with leadingBlanks := true }, c.skip.skipLine)
    else if !single && c.check '\\' then
      match c.ahead 1 with
      | some e =>
        match simpleEscape e with
        | some ch => readQuotedRun single start fuel { f with text := f.text.push ch } (c.skipN 2)
        | none =>
          let n := codeLength e
          if n = 0 then
            .error (scanFailure "while parsing a quoted scalar" start "found unknown escape character" c)
          else
            let c := c.skipN 2
            match readHex start c n with
            | .ok v =>
              if (0xD800 ≤ v && v ≤ 0xDFFF) || v > 0x10FFFF then
                .error (scanFailure "while parsing a quoted scalar" start
                  "found invalid Unicode character escape code" c)
              else readQuotedRun single start fuel { f with text := f.text.push (Char.ofNat v) }
                (c.skipN n)
            | .error err => .error err
      | none => .error (scanFailure "while parsing a quoted scalar" start "found unknown escape character" c)
    else
      let (s, c) := c.read
      readQuotedRun single start fuel { f with text := f.text ++ s } c

/-- Reads blanks and breaks while there are some. -/
def absorbBlanks : Nat → Folding → Cursor → Folding × Cursor
  | 0, f, c => (f, c)
  | fuel + 1, f, c =>
    if c.isBlankHere || c.isBreakHere then
      let (f, c) := f.absorb c
      absorbBlanks fuel f c
    else (f, c)

/-- The body of a quoted scalar, from after the opening quote. -/
def readQuotedBody (single : Bool) (start : Mark) :
    Nat → Folding → Cursor → Except SyntaxError (Folding × Cursor)
  | 0, f, c => .ok (f, c)
  | fuel + 1, f, c =>
    if c.atDocumentMarker then
      .error (scanFailure "while scanning a quoted scalar" start "found unexpected document indicator" c)
    else if c.atEnd then
      .error (scanFailure "while scanning a quoted scalar" start "found unexpected end of stream" c)
    else
      match readQuotedRun single start (c.rest.length + 1) { f with leadingBlanks := false } c with
      | .error e => .error e
      | .ok (f, c) =>
        if c.check (if single then '\'' else '"') then .ok (f, c)
        else
          let (f, c) := absorbBlanks (c.rest.length + 1) f c
          readQuotedBody single start fuel f.join c

/-- Reads a single- or double-quoted scalar. -/
def readQuoted (single : Bool) (c : Cursor) : Except SyntaxError (Token × Cursor) := do
  let start := c.mark
  let (f, c) ← readQuotedBody single start (c.rest.length + 1) {} c.skip
  let c := c.skip
  let style := if single then ScalarStyle.singleQuoted else .doubleQuoted
  return ({ kind := .scalar f.text style, start, stop := c.mark }, c)

/-! ## Plain scalars -/

/-- Reads the characters of a plain scalar on one line, joining the pending
blanks before each; stops at a blank, a break, the end, `: ` and, in flow
context, at a flow indicator. -/
def readPlainRun (flowLevel : Nat) (start : Mark) :
    Nat → Folding → Mark → Cursor → Except SyntaxError (Folding × Mark × Cursor)
  | 0, f, stop, c => .ok (f, stop, c)
  | fuel + 1, f, stop, c =>
    if c.isBlankZ then .ok (f, stop, c)
    else if flowLevel > 0 && c.check ':' && (c.ahead 1).any (fun ch => ",?[]\x7b\x7d".contains ch) then
      .error (scanFailure "while scanning a plain scalar" start "found unexpected ':'" c)
    else if (c.check ':' && c.blankZAt 1) ||
        (flowLevel > 0 && (c.ahead 0).any fun ch => ",[]\x7b\x7d".contains ch) then
      .ok (f, stop, c)
    else
      let f := if f.leadingBlanks || !f.whitespaces.isEmpty then f.join else f
      let (s, c) := c.read
      readPlainRun flowLevel start fuel { f with text := f.text ++ s } c.mark c

/-- Reads blanks and breaks after a plain scalar's line; a tab in the
indentation of a continuation line is refused. -/
def absorbPlainBlanks (indent : Int) (start : Mark) :
    Nat → Folding → Cursor → Except SyntaxError (Folding × Cursor)
  | 0, f, c => .ok (f, c)
  | fuel + 1, f, c =>
    if c.isBlankHere || c.isBreakHere then
      if c.isBlankHere && f.leadingBlanks && (c.mark.column : Int) < indent && c.check '\t' then
        .error (scanFailure "while scanning a plain scalar" start
          "found a tab character that violates indentation" c)
      else
        let (f, c) := f.absorb c
        absorbPlainBlanks indent start fuel f c
    else .ok (f, c)

/-- The lines of a plain scalar. -/
def readPlainBody (flowLevel : Nat) (indent : Int) (start : Mark) :
    Nat → Folding → Mark → Cursor → Except SyntaxError (Folding × Mark × Cursor)
  | 0, f, stop, c => .ok (f, stop, c)
  | fuel + 1, f, stop, c =>
    if c.atDocumentMarker || c.check '#' then .ok (f, stop, c)
    else
      match readPlainRun flowLevel start (c.rest.length + 1) f stop c with
      | .error e => .error e
      | .ok (f, stop, c) =>
        if !(c.isBlankHere || c.isBreakHere) then .ok (f, stop, c)
        else
          match absorbPlainBlanks indent start (c.rest.length + 1) f c with
          | .error e => .error e
          | .ok (f, c) =>
            if flowLevel = 0 && (c.mark.column : Int) < indent then .ok (f, stop, c)
            else readPlainBody flowLevel indent start fuel f stop c

/-- Reads a plain scalar in a block indented at `indent` (or in flow
context). Answers the token, the rest, and whether it ended after a line
break, which allows a simple key to follow. -/
def readPlain (flowLevel : Nat) (indent : Int) (c : Cursor) :
    Except SyntaxError (Token × Cursor × Bool) := do
  let start := c.mark
  let (f, stop, c) ← readPlainBody flowLevel (indent + 1) start (c.rest.length + 1) {} start c
  return ({ kind := .scalar f.text .plain, start, stop }, c, f.leadingBlanks)

/-! ## Block scalars -/

/-- Passes the spaces of indentation in front of column `indent` (all of
them while no indentation is fixed, `indent = 0`). -/
def skipIndentation (indent : Nat) : Nat → Cursor → Cursor
  | 0, c => c
  | n + 1, c =>
    if (indent = 0 || c.mark.column < indent) && c.check ' ' then skipIndentation indent n c.skip
    else c

/-- Passes the indentation and empty lines before a line of a block scalar,
collecting the breaks. With no indentation fixed yet (`indent = 0`), fixes it
from the deepest of these lines, at least one more than the enclosing block
and at least 1. -/
def readBlockBreaks (blockIndent : Int) (start : Mark) :
    Nat → Nat → Nat → String → Mark → Cursor → Except SyntaxError (Nat × String × Mark × Cursor)
  | 0, indent, _, breaks, stop, c => .ok (indent, breaks, stop, c)
  | fuel + 1, indent, maxIndent, breaks, stop, c =>
    let c := skipIndentation indent (c.rest.length + 1) c
    let maxIndent := max maxIndent c.mark.column
    if (indent = 0 || c.mark.column < indent) && c.check '\t' then
      .error (scanFailure "while scanning a block scalar" start
        "found a tab character where an indentation space is expected" c)
    else if c.isBreakHere then
      let (s, c) := c.readLine
      readBlockBreaks blockIndent start fuel indent maxIndent (breaks ++ s) c.mark c
    else
      let indent :=
        if indent = 0 then max (max maxIndent (blockIndent + 1).toNat) 1 else indent
      .ok (indent, breaks, stop, c)

/-- Reads the lines of a block scalar at its indentation. -/
def readBlockLines (literal : Bool) (blockIndent : Int) (start : Mark) :
    Nat → Nat → Folding → Bool → Mark → Cursor → Except SyntaxError (Folding × Mark × Cursor)
  | 0, _, f, _, stop, c => .ok (f, stop, c)
  | fuel + 1, indent, f, leadingBlank, stop, c =>
    if c.mark.column != indent || c.atEnd then .ok (f, stop, c)
    else
      let trailingBlank := c.isBlankHere
      let text :=
        if !literal && f.leadingBreak.startsWith "\n" && !leadingBlank && !trailingBlank then
          if f.trailingBreaks.isEmpty then f.text ++ " " else f.text
        else f.text ++ f.leadingBreak
      let text := text ++ f.trailingBreaks
      let (line, c) := c.readWhile (fun ch => !isBreak ch)
      let (brk, c) := c.readLine
      match readBlockBreaks blockIndent start (c.rest.length + 1) indent 0 "" c.mark c with
      | .error e => .error e
      | .ok (indent, breaks, stop, c) =>
        readBlockLines literal blockIndent start fuel indent
          { f with text := text ++ line, leadingBreak := brk, trailingBreaks := breaks }
          trailingBlank stop c

/-- Reads a block scalar (`|` literal or `>` folded) in a block indented at
`blockIndent`. -/
def readBlockScalar (literal : Bool) (blockIndent : Int) (c : Cursor) :
    Except SyntaxError (Token × Cursor) := do
  let start := c.mark
  let c := c.skip
  let chompOf : Char → Int := fun ch => if ch == '+' then 1 else -1
  let digitOf : Char → Nat := fun ch => ch.toNat - '0'.toNat
  let zero := "found an indentation indicator equal to 0"
  let (chomping, increment, c) ←
    match c.ahead 0 with
    | some ch =>
      if ch == '+' || ch == '-' then
        let c' := c.skip
        match c'.ahead 0 with
        | some d =>
          if d.isDigit then
            if d == '0' then throw (scanFailure "while scanning a block scalar" start zero c')
            else pure (chompOf ch, digitOf d, c'.skip)
          else pure (chompOf ch, 0, c')
        | none => pure (chompOf ch, 0, c')
      else if ch.isDigit then
        if ch == '0' then throw (scanFailure "while scanning a block scalar" start zero c)
        else
          let c' := c.skip
          match c'.ahead 0 with
          | some k =>
            if k == '+' || k == '-' then pure (chompOf k, digitOf ch, c'.skip)
            else pure (0, digitOf ch, c')
          | none => pure (0, digitOf ch, c')
      else pure (0, 0, c)
    | none => pure (0, 0, c)
  let c := c.skipToLineEnd
  if !c.isBreakZ then
    throw (scanFailure "while scanning a block scalar" start
      "did not find expected comment or line break" c)
  let c := if c.isBreakHere then c.skipLine else c
  let indent : Nat :=
    if increment = 0 then 0
    else if blockIndent ≥ 0 then (blockIndent + increment).toNat else increment
  let (indent, breaks, stop, c) ←
    readBlockBreaks blockIndent start (c.rest.length + 1) indent 0 "" c.mark c
  let (f, stop, c) ←
    readBlockLines literal blockIndent start (c.rest.length + 1) indent
      { trailingBreaks := breaks } false stop c
  let text := if chomping != -1 then f.text ++ f.leadingBreak else f.text
  let text := if chomping == 1 then text ++ f.trailingBreaks else text
  let style := if literal then ScalarStyle.literal else .folded
  return ({ kind := .scalar text style, start, stop }, c)

end GeoAccess.Yaml
