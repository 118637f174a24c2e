import GeoAccess.Yaml.Parser

/-!
# Documents

A document is the list of its events as a reader walks them, with each alias
naming the number of its anchor, and the node each number names. An anchor
is numbered where it is defined by how many distinct names were defined
before it (`Anchors.define`): a name defined again gets a new number, a new
name may take the number of an earlier one, and a number names the node last
anchored with it in the whole document. Reading stops
at the first syntax error or unknown alias; the events before it stay
readable, so a reader that never needs what comes after meets no failure
there. A stream with no document at all holds one `void` item.

`YamlError` is a failure of reading a document: a syntax error, or a typed
reader's refusal (a message placed at the node it is about, with the path
from the root to that node, such as `rules[0].priority`).
-/

namespace GeoAccess.Yaml

/-- The way from the root of a document to a node. -/
inductive Path where
  | root
  /-- The value under a key. -/
  | key (parent : Path) (name : String)
  /-- An element of a sequence. -/
  | index (parent : Path) (i : Nat)
  /-- The value under a key that is not a scalar. -/
  | unknown (parent : Path)
  deriving DecidableEq, Repr, Inhabited

namespace Path

/-- The path in words: `.` for the root, `a.b`, `a[0]`, `a.?`. -/
def render : Path → String
  | .root => "."
  | .key p k => prefixOf p ++ k
  | .index p i => render p ++ "[" ++ toString i ++ "]"
  | .unknown p => prefixOf p ++ "?"
where
  /-- What a child's name follows: nothing under the root, else the path and a dot. -/
  prefixOf : Path → String
    | .root => ""
    | p => render p ++ "."

end Path

/-- A failure of reading a document. -/
inductive YamlError where
  /-- The text is not well-formed. -/
  | malformed (e : SyntaxError)
  /-- A reader refused a node; the position is filled in by the reader of the
  innermost node that sees the failure. -/
  | message (text : String) (pos : Option (Mark × Path))
  | endOfStream
  | moreThanOneDocument
  | unknownAnchor (m : Mark)
  | recursionLimit (m : Mark)
  | repetitionLimit
  deriving Repr

namespace YamlError

/-- A message with no position yet. -/
def msg (text : String) : YamlError := .message text none

/-- Places a message without a position at a node. -/
def place (m : Mark) (p : Path) : YamlError → YamlError
  | .message text none => .message text (some (m, p))
  | e => e

/-- ` at line L column C`, or nothing at the very start. -/
def suffixAt (m : Mark) : String := if m.isPlaced then " at " ++ m.render else ""

/-- The wording of a failure. -/
def render : YamlError → String
  | .malformed e => e.message
  | .message text none => text
  | .message text (some (m, p)) =>
    (if p.render == "." then "" else p.render ++ ": ") ++ text ++ suffixAt m
  | .endOfStream => "EOF while parsing a value"
  | .moreThanOneDocument =>
    "deserializing from YAML containing more than one document is not supported"
  | .unknownAnchor m => "unknown anchor" ++ suffixAt m
  | .recursionLimit m => "recursion limit exceeded" ++ suffixAt m
  | .repetitionLimit => "repetition limit exceeded"

end YamlError

/-- An event as a reader walks it. -/
inductive Item where
  /-- An alias, with the number of the anchor it names. -/
  | alias (anchor : Nat)
  | scalar (value : String) (tag : Option Tag) (style : ScalarStyle)
  | seqStart (tag : Option Tag)
  | seqEnd
  | mapStart (tag : Option Tag)
  | mapEnd
  /-- The node of a stream with no document. -/
  | void
  deriving DecidableEq, Repr, Inhabited

/-- One document: its items with their positions, the position of the node
each anchor number names, and the failure that cut it short. -/
structure Document where
  items : Array (Item × Mark) := #[]
  nodes : List (Nat × Nat) := []
  failure : Option YamlError := none
  deriving Repr, Inhabited

/-- The position of the node an anchor number names. -/
def Document.node? (d : Document) (anchor : Nat) : Option Nat :=
  d.nodes.lookup anchor

/-- The anchors of a document defined so far: each name with its number,
and each number with the position of its node. -/
structure Anchors where
  numbers : List (String × Nat) := []
  nodes : List (Nat × Nat) := []
  deriving Repr, Inhabited

/-- Defines the anchor `name` on the node at `pos`: its number is how many
distinct names were defined before, and that number now names this node. -/
def Anchors.define (a : Anchors) (name : String) (pos : Nat) : Anchors :=
  let n := a.numbers.length
  { numbers := (name, n) :: a.numbers.filter (·.1 != name),
    nodes := (n, pos) :: a.nodes.filter (·.1 != n) }

/-- A name once defined keeps a number. -/
theorem Anchors.define_lookup (a : Anchors) (name : String) (pos : Nat) :
    ((a.define name pos).numbers.lookup name) = some a.numbers.length := by
  simp [Anchors.define]

/-- The byte length of a character in UTF-8. -/
def charBytes (c : Char) : Nat :=
  let v := c.toNat
  if v < 0x80 then 1 else if v < 0x800 then 2 else if v < 0x10000 then 3 else 4

/-- The first character the text may not hold, as a failure at its byte
offset. A leading byte order mark counts in the offset. -/
def controlFailure (text : String) : Option SyntaxError :=
  go text.toList 0
where
  go : List Char → Nat → Option SyntaxError
    | [], _ => none
    | c :: cs, offset =>
      if isPrintable c then go cs (offset + charBytes c)
      else some { problem := "control characters are not allowed", problemOffset := offset }

/-- The reader of a stream's documents. -/
structure Loader where
  /-- The parser, until the stream has ended. -/
  parser : Option Parser
  /-- How many documents were asked for. -/
  count : Nat := 0
  /-- A failure of the text as a whole, met by the first read. -/
  refused : Option SyntaxError := none
  deriving Repr

/-- Collects the items of one document. -/
def collect (first : Bool) :
    Nat → Parser → Anchors → Array (Item × Mark) → Option Document × Option Parser
  | 0, p, anchors, items => (some { items, nodes := anchors.nodes }, some p)
  | fuel + 1, p, anchors, items =>
    let anchored (props : NodeProps) : Anchors :=
      match props.anchor with
      | some name => anchors.define name items.size
      | none => anchors
    match p.next with
    | .error e => (some { items, nodes := anchors.nodes, failure := some (.malformed e) }, none)
    | .ok none => (none, none)
    | .ok (some (ev, p)) =>
      match ev.kind with
      | .streamStart | .documentStart => collect first fuel p anchors items
      | .streamEnd =>
        if first then
          let items := if items.isEmpty then items.push (.void, ev.start) else items
          (some { items, nodes := anchors.nodes }, none)
        else (none, none)
      | .documentEnd => (some { items, nodes := anchors.nodes }, some p)
      | .alias name =>
        match anchors.numbers.lookup name with
        | some n => collect first fuel p anchors (items.push (.alias n, ev.start))
        | none =>
          (some { items, nodes := anchors.nodes, failure := some (.unknownAnchor ev.start) }, none)
      | .scalar props value style =>
        collect first fuel p (anchored props) (items.push (.scalar value props.tag style, ev.start))
      | .sequenceStart props =>
        collect first fuel p (anchored props) (items.push (.seqStart props.tag, ev.start))
      | .sequenceEnd => collect first fuel p anchors (items.push (.seqEnd, ev.start))
      | .mappingStart props =>
        collect first fuel p (anchored props) (items.push (.mapStart props.tag, ev.start))
      | .mappingEnd => collect first fuel p anchors (items.push (.mapEnd, ev.start))

namespace Loader

/-- A loader of a text. -/
def ofString (text : String) : Loader :=
  { parser := some (Parser.ofString text), refused := controlFailure text }

/-- The next document, if the stream has one more. -/
def nextDocument (l : Loader) : Option Document × Loader :=
  match l.parser with
  | none => (none, l)
  | some p =>
    match l.refused with
    | some e => (some { failure := some (.malformed e) }, { l with parser := none, count := l.count + 1 })
    | none =>
      let fuel := 8 * (p.scanner.cursor.rest.length + p.scanner.queue.length) + 64
      let (doc, p) := collect (l.count == 0) fuel p {} #[]
      (doc, { l with parser := p, count := l.count + 1 })

end Loader

/-- Reads a single-document text with a reader of its document: the reader's
failure first, then the failure that cut the document short, then a second
document. -/
def readSingle {α : Type} (text : String) (read : Document → Except YamlError α) :
    Except YamlError α :=
  let (doc, loader) := (Loader.ofString text).nextDocument
  match doc with
  | none => .error .endOfStream
  | some doc =>
    match read doc with
    | .error e => .error e
    | .ok a =>
      match doc.failure with
      | some e => .error e
      | none =>
        match loader.nextDocument.1 with
        | none => .ok a
        | some _ => .error .moreThanOneDocument

end GeoAccess.Yaml
