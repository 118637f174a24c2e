import GeoAccess.Yaml.Document
import GeoAccess.Yaml.Number
import GeoAccess.Data.Decode

/-!
# Typed reading of documents

Readers of one node each, in the style of a typed deserializer walking the
document's items from a position:

- a reader of a text takes any scalar as it is written;
- a reader of a truth value or an integer parses a plain scalar, or a
  literal block tagged as that kind (`!!int |-`), and refuses anything else
  naming what it found, as the core schema reads it
  (`invalid type: string "yes", expected a boolean`);
- an optional value is absent for a plain null spelling and for nothing at
  all;
- a sequence or a record may also be written as nothing at all, and is then
  empty;
- a record reads its keys as texts and hands each value to the record's own
  step; keys it does not know are passed over whole;
- any value at all (`readContent`) becomes a document value (`Datum`), with
  a scalar resolved by its tag or, untagged and plain, by the core schema,
  and a mapping's keys read as values too.

An alias is read as the node its anchor names; reading then goes on after
the alias. Collections may nest 128 deep, and aliases may be followed a
hundred times per item of the document.

A refusal is placed at the innermost node that sees it: its position and
the path to it.
-/

namespace GeoAccess.Yaml

/-- Where a reader stands: the next item, and how many aliases were
followed so far. -/
structure Reading where
  pos : Nat := 0
  jumps : Nat := 0
  deriving Repr, Inhabited

/-- The item at the reading position; past the end, the failure that cut the
document short. -/
def peekItem (d : Document) (r : Reading) : Except YamlError (Item × Mark) :=
  match d.items[r.pos]? with
  | some im => .ok im
  | none => .error (d.failure.getD .endOfStream)

/-- Counts one more alias followed. -/
def jump (d : Document) (r : Reading) : Except YamlError Reading :=
  if r.jumps + 1 > d.items.size * 100 then .error .repetitionLimit
  else .ok { r with jumps := r.jumps + 1 }

/-- The node an anchor number names: its position, item and mark. -/
def aliased (d : Document) (anchor : Nat) : Option (Nat × Item × Mark) := do
  let pos ← d.node? anchor
  let im ← d.items[pos]?
  return (pos, im)

/-- Reads the node at the position with `rd`, given its item and position;
an alias is read as the node it names, and reading goes on after it. -/
def viaAlias {α : Type} (d : Document) (r : Reading)
    (rd : Item → Mark → Reading → Except YamlError (α × Reading)) : Except YamlError (α × Reading) := do
  let (item, mark) ← peekItem d r
  match item with
  | .alias anchor =>
    let r' ← jump d { r with pos := r.pos + 1 }
    match aliased d anchor with
    | some (target, item', mark') =>
      let (a, r'') ← rd item' mark' { pos := target + 1, jumps := r'.jumps }
      pure (a, { pos := r.pos + 1, jumps := r''.jumps })
    | none => throw .endOfStream
  | _ => rd item mark { r with pos := r.pos + 1 }

/-! ## Scalars -/

/-- The core schema's tags. -/
def nullTag : String := "tag:yaml.org,2002:null"
def boolTag : String := "tag:yaml.org,2002:bool"
def intTag : String := "tag:yaml.org,2002:int"
def floatTag : String := "tag:yaml.org,2002:float"

/-- What a scalar denotes. -/
inductive ScalarValue where
  | null
  | bool (b : Bool)
  /-- An integer read without a minus sign. -/
  | unsigned (n : Nat)
  /-- An integer read with a minus sign. -/
  | signed (i : Int)
  /-- An integer wider than 64 bits, described in words. -/
  | wide (text : String)
  | float (f : FloatValue)
  | str (s : String)
  /-- A scalar whose tag it does not fit. -/
  | refused (e : DecodeError)
  deriving Repr

/-- An integer in the widths tried in order: unsigned, then negative, in 64
and then 128 bits. -/
def integerValue (v : String) : Option ScalarValue :=
  match parseUnsigned 64 v with
  | some n => some (.unsigned n)
  | none =>
    match parseNegative 64 v with
    | some i => some (.signed i)
    | none =>
      match parseUnsigned 128 v with
      | some n => some (.wide ("integer `" ++ toString n ++ "` as u128"))
      | none => (parseNegative 128 v).map fun i => .wide ("integer `" ++ toString i ++ "` as i128")

/-- What an untagged plain scalar denotes. -/
def untaggedValue (v : String) : ScalarValue :=
  if v.isEmpty || isNullWord v then .null
  else
    match parseBool v with
    | some b => .bool b
    | none =>
      match integerValue v with
      | some x => x
      | none =>
        match (if digitsButNotNumber v then none else parseFloat v) with
        | some f => .float f
        | none => .str v

/-- What a scalar denotes, by its tag, or by the core schema when it is plain
and untagged or locally tagged. -/
def scalarValue (v : String) (tag : Option Tag) (style : ScalarStyle) : ScalarValue :=
  match tag.map (·.text) with
  | some t =>
    if t == boolTag then
      match parseBool v with
      | some b => .bool b
      | none => .refused (.invalidValue (.str v) "a boolean")
    else if t == intTag then
      match integerValue v with
      | some x => x
      | none => .refused (.invalidValue (.str v) "an integer")
    else if t == floatTag then
      match parseFloat v with
      | some f => .float f
      | none => .refused (.invalidValue (.str v) "a float")
    else if t == nullTag then
      if isNullWord v then .null else .refused (.invalidValue (.str v) "null")
    else if t.startsWith "!" && style == .plain then untaggedValue v
    else .str v
  | none => if style == .plain then untaggedValue v else .str v

/-- The refusal of a scalar by a reader expecting something else. -/
def scalarMismatch (v : String) (tag : Option Tag) (style : ScalarStyle) (expected : String) :
    YamlError :=
  let e : DecodeError :=
    match scalarValue v tag style with
    | .null => .invalidType .unit expected
    | .bool b => .invalidType (.bool b) expected
    | .unsigned n => .invalidType (.integer n) expected
    | .signed i => .invalidType (.integer i) expected
    | .wide t => .invalidType (.other t) expected
    | .float f => .invalidType (.float f.render) expected
    | .str s => .invalidType (.str s) expected
    | .refused e => e
  .msg e.message

/-- The refusal of a node by a reader expecting something else. -/
def mismatch (item : Item) (expected : String) : YamlError :=
  match item with
  | .scalar v tag style => scalarMismatch v tag style expected
  | .seqStart _ => .msg (DecodeError.invalidType .seq expected).message
  | .mapStart _ => .msg (DecodeError.invalidType .map expected).message
  | _ => .endOfStream

/-- Reads a scalar with `accept`, refusing it or any other node as not
`expected`. -/
def readScalar {α : Type} (expected : String)
    (accept : String → Option Tag → ScalarStyle → Option α)
    (d : Document) (path : Path) (r : Reading) : Except YamlError (α × Reading) :=
  viaAlias d r fun item mark r =>
    let found : Option α := match item with
      | .scalar v tag style => accept v tag style
      | _ => none
    match found with
    | some a => .ok (a, r)
    | none => .error ((mismatch item expected).place mark path)

/-- A text: any scalar as written. -/
def readStr (expected : String) : Document → Path → Reading → Except YamlError (String × Reading) :=
  readScalar expected fun v _ _ => some v

/-- Whether a reader of the kind tagged `kindTag` parses a scalar: a plain
one whatever its tag, or a literal block tagged as that kind. -/
def parsesAs (kindTag : String) (tag : Option Tag) (style : ScalarStyle) : Bool :=
  style == .plain || (style == .literal && tag.map (·.text) == some kindTag)

/-- A truth value: `true` or `false` in one of their spellings. -/
def readBool : Document → Path → Reading → Except YamlError (Bool × Reading) :=
  readScalar "a boolean" fun v tag style => if parsesAs boolTag tag style then parseBool v else none

/-- An unsigned 64-bit integer. -/
def readU64 : Document → Path → Reading → Except YamlError (Nat × Reading) :=
  readScalar "u64" fun v tag style => if parsesAs intTag tag style then parseUnsigned 64 v else none

/-- A signed 64-bit integer. -/
def readI64 : Document → Path → Reading → Except YamlError (Int × Reading) :=
  readScalar "i64" fun v tag style => if parsesAs intTag tag style then parseSigned v else none

/-- An optional value: absent for nothing at all and for a plain null
spelling or empty scalar; a scalar tagged null must spell null. The refusal
of a badly tagged null is left for the enclosing node to place. -/
def readOption {α : Type} (inner : Document → Path → Reading → Except YamlError (α × Reading))
    (d : Document) (path : Path) (r : Reading) : Except YamlError (Option α × Reading) := do
  let (item, _) ← peekItem d r
  let present (item : Item) : Except YamlError Bool :=
    match item with
    | .scalar v tag style =>
      if style != .plain then .ok true
      else
        match tag with
        | some t =>
          if t.text == nullTag then
            if isNullWord v then .ok false
            else .error (.msg (DecodeError.invalidValue (.str v) "null").message)
          else .ok true
        | none => .ok (!v.isEmpty && !isNullWord v)
    | .seqStart _ | .mapStart _ => .ok true
    | _ => .ok false
  match item with
  | .alias anchor =>
    let r' ← jump d { r with pos := r.pos + 1 }
    match aliased d anchor with
    | some (target, item', _) =>
      let sub : Reading := { pos := target, jumps := r'.jumps }
      if ← present item' then
        let (a, r'') ← inner d path sub
        pure (some a, { pos := r.pos + 1, jumps := r''.jumps })
      else pure (none, { pos := r.pos + 1, jumps := r'.jumps })
    | none => throw .endOfStream
  | _ =>
    if ← present item then
      let (a, r) ← inner d path r
      pure (some a, r)
    else pure (none, { r with pos := r.pos + 1 })

/-! ## Passing over a node -/

/-- Passes over one node whole, an alias being one item. -/
def skipNode (d : Document) : Nat → Nat → Reading → Except YamlError Reading
  | 0, _, r => .ok r
  | fuel + 1, open_, r => do
    let (item, _) ← peekItem d r
    let r := { r with pos := r.pos + 1 }
    let open_ := match item with
      | .seqStart _ | .mapStart _ => open_ + 1
      | .seqEnd | .mapEnd => open_ - 1
      | _ => open_
    if open_ == 0 then pure r else skipNode d fuel open_ r

/-- Passes over the node at the position. -/
def ignore (d : Document) (r : Reading) : Except YamlError Reading :=
  skipNode d (d.items.size + 1) 0 r

/-- Passes the end of a collection. -/
def closeCollection (d : Document) (r : Reading) : Except YamlError Reading :=
  (peekItem d r).map fun _ => { r with pos := r.pos + 1 }

/-! ## Collections -/

/-- Reads the elements of a sequence up to its end. -/
def readElements {α : Type} (d : Document) (path : Path)
    (elem : Path → Reading → Except YamlError (α × Reading)) : Nat → Nat → List α → Reading → Except YamlError (List α × Reading)
  | 0, _, acc, r => .ok (acc.reverse, r)
  | fuel + 1, i, acc, r => do
    let (item, _) ← peekItem d r
    match item with
    | .seqEnd | .void => pure (acc.reverse, r)
    | _ =>
      let (a, r) ← elem (.index path i) r
      readElements d path elem fuel (i + 1) (a :: acc) r

/-- A sequence, read element by element at one level deeper; nothing at all
or an empty plain scalar is an empty sequence. -/
def readSeq {α : Type} (depth : Nat) (elem : Nat → Path → Reading → Except YamlError (α × Reading))
    (d : Document) (path : Path) (r : Reading) : Except YamlError (List α × Reading) :=
  viaAlias d r fun item mark r =>
    let result : Except YamlError (List α × Reading) :=
      match item with
      | .seqStart _ =>
        match depth with
        | 0 => .error (.recursionLimit mark)
        | depth' + 1 => do
          let (xs, r) ← readElements d path (elem depth') (d.items.size + 1) 0 [] r
          let r ← closeCollection d r
          pure (xs, r)
      | .void => .ok ([], r)
      | .scalar v _ style =>
        if v.isEmpty && style == .plain then .ok ([], r) else .error (mismatch item "a sequence")
      | _ => .error (mismatch item "a sequence")
    result.mapError (·.place mark path)

/-- Reads the entries of a mapping up to its end: each key as a text, then
its value with `step` at the key's path. -/
def readEntries {σ : Type} (d : Document) (path : Path)
    (step : σ → String → Path → Reading → Except YamlError (σ × Reading)) : Nat → σ → Reading → Except YamlError (σ × Reading)
  | 0, acc, r => .ok (acc, r)
  | fuel + 1, acc, r => do
    let (item, _) ← peekItem d r
    match item with
    | .mapEnd | .void => pure (acc, r)
    | _ =>
      let valuePath := match item with
        | .scalar v _ _ => Path.key path v
        | _ => .unknown path
      let (k, r) ← readStr "field identifier" d path r
      let (acc, r) ← step acc k valuePath r
      readEntries d path step fuel acc r

/-- A record: a mapping whose values `step` reads one level deeper, then
`finish` turns into the result. Nothing at all or an empty plain scalar is a
record with no entries. -/
def readMap {σ β : Type} (expected : String) (depth : Nat) (init : σ)
    (step : Nat → σ → String → Path → Reading → Except YamlError (σ × Reading)) (finish : σ → Except YamlError β)
    (d : Document) (path : Path) (r : Reading) : Except YamlError (β × Reading) :=
  viaAlias d r fun item mark r =>
    let result : Except YamlError (β × Reading) :=
      match item with
      | .mapStart _ =>
        match depth with
        | 0 => .error (.recursionLimit mark)
        | depth' + 1 => do
          let (acc, r) ← readEntries d path (step depth') (d.items.size + 1) init r
          let b ← finish acc
          let r ← closeCollection d r
          pure (b, r)
      | .void => (finish init).map (·, r)
      | .scalar v _ style =>
        if v.isEmpty && style == .plain then (finish init).map (·, r)
        else .error (mismatch item expected)
      | _ => .error (mismatch item expected)
    result.mapError (·.place mark path)

/-- Reads a record member once: a second occurrence is refused. -/
def once {α σ : Type} (name : String) (current : Option α) (read : Reading → Except YamlError (α × Reading))
    (set : α → σ) (r : Reading) : Except YamlError (σ × Reading) :=
  if current.isSome then .error (.msg (DecodeError.duplicateField name).message)
  else (read r).map fun (a, r) => (set a, r)

/-! ## Any value -/

/-- Whether a tag asks for an enumeration variant: a local tag whose bytes
are UTF-8 text. -/
def isVariantTag : Option Tag → Bool
  | some t => t.text.startsWith "!" && t.decodes
  | none => false

/-- The refusal of a variant tag where any value is read. -/
def variantTagFailure : YamlError :=
  .msg "untagged and internally tagged enums do not support enum input"

/-- A scalar as any value. -/
def scalarContent (v : String) (tag : Option Tag) (style : ScalarStyle) :
    Except YamlError Datum :=
  match scalarValue v tag style with
  | .null => .ok .unit
  | .bool b => .ok (.bool b)
  | .unsigned n => .ok (.nat n)
  | .signed i => .ok (.int i)
  | .wide t => .error (.msg (DecodeError.invalidType (.other t) "any value").message)
  | .float f => .ok (.float f.render)
  | .str s => .ok (.str s)
  | .refused e => .error (.msg e.message)

/-- Reads the entries of a mapping as any values, keys and values alike. -/
def contentEntries (d : Document) (path : Path) (read : Path → Reading → Except YamlError (Datum × Reading)) :
    Nat → List (Datum × Datum) → Reading → Except YamlError (List (Datum × Datum) × Reading)
  | 0, acc, r => .ok (acc.reverse, r)
  | fuel + 1, acc, r => do
    let (item, _) ← peekItem d r
    match item with
    | .mapEnd | .void => pure (acc.reverse, r)
    | _ =>
      let valuePath := match item with
        | .scalar v _ _ => Path.key path v
        | _ => .unknown path
      let (k, r) ← read path r
      let (v, r) ← read valuePath r
      contentEntries d path read fuel ((k, v) :: acc) r

/-- Any value: scalars by their tag or the core schema, sequences and
mappings as they are. A local tag is refused. -/
def readContent (d : Document) : Nat → Path → Reading → Except YamlError (Datum × Reading)
  | depth, path, r =>
    viaAlias d r fun item mark r =>
      let result : Except YamlError (Datum × Reading) :=
        match item with
        | .scalar v tag style =>
          if isVariantTag tag then .error variantTagFailure
          else (scalarContent v tag style).map (·, r)
        | .seqStart tag =>
          if isVariantTag tag then .error variantTagFailure
          else
            match depth with
            | 0 => .error (.recursionLimit mark)
            | depth' + 1 => do
              let (xs, r) ← readElements d path (readContent d depth') (d.items.size + 1) 0 [] r
              let r ← closeCollection d r
              pure (.seq xs, r)
        | .mapStart tag =>
          if isVariantTag tag then .error variantTagFailure
          else
            match depth with
            | 0 => .error (.recursionLimit mark)
            | depth' + 1 => do
              let (kvs, r) ← contentEntries d path (readContent d depth') (d.items.size + 1) [] r
              let r ← closeCollection d r
              pure (.map kvs, r)
        | _ => .ok (.unit, r)
      result.mapError (·.place mark path)

/-- The nesting allowed below the root. -/
def depthLimit : Nat := 128

end GeoAccess.Yaml
