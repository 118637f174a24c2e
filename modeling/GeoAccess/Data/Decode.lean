import GeoAccess.Data.Datum
import GeoAccess.Error
import GeoAccess.Data.OrdSet

/-!
# Decoding documents

Typed reading of document values (`Datum`) into the library's types, with
the failures worded the way a reader of the document expects:
`invalid type: string "x", expected a boolean`,
``unknown variant `MAYBE`, expected one of `ALLOW`, `DENY`, `LIMIT` ``,
``missing field `grant` ``.

A record is read member by member in the order of the document: a known
member is decoded where it stands, and its failure is the answer; a member
named twice is refused; unknown members are ignored; after the last member a
required member that never came is refused, in the order the record declares
its members. A key names a member by its text, or, as a number without a
sign, by the member's position in that order (a position past the last
member names none); a key of any other kind is refused as no
`field identifier`.

A record may also be written as the sequence of its members in the order it
declares them, and an enumeration as a mapping whose one key names the
variant (`enumName`; `enumValue` is the same read directly from JSON, where
that key's value must be `null`). Anything else is refused as not a
`string or map`.

- `Decoder α` reads one value.
- `Decode.members` walks a mapping's entries into an accumulating record.
- `DecodeError.message` words a failure.
-/

namespace GeoAccess

/-- What a value turned out to be, as a failure names it. -/
inductive Unexpected where
  | bool (b : Bool)
  | integer (i : Int)
  | float (text : String)
  | str (s : String)
  | unit
  | seq
  | map
  /-- A value described in words of its own. -/
  | other (text : String)
  deriving DecidableEq, Repr

/-- The words for a value that was not expected. -/
def Unexpected.describe : Unexpected → String
  | .bool b => "boolean `" ++ (if b then "true" else "false") ++ "`"
  | .integer i => "integer `" ++ toString i ++ "`"
  | .float t => "floating point `" ++ t ++ "`"
  | .str s => "string " ++ Text.quote s
  | .unit => "unit value"
  | .seq => "sequence"
  | .map => "map"
  | .other t => t

/-- What a value is, for a failure. -/
def Datum.unexpected : Datum → Unexpected
  | .unit => .unit
  | .bool b => .bool b
  | .nat n => .integer n
  | .int i => .integer i
  | .float t => .float t
  | .str s => .str s
  | .seq _ => .seq
  | .map _ => .map

/-- Why a value could not be read. -/
inductive DecodeError where
  /-- The value is of the wrong kind. -/
  | invalidType (got : Unexpected) (expected : String)
  /-- The value is of the right kind but out of range. -/
  | invalidValue (got : Unexpected) (expected : String)
  /-- A name is none of the variants. -/
  | unknownVariant (name : String) (variants : List String)
  /-- A sequence has a length the record read from it cannot take. -/
  | invalidLength (length : Nat) (expected : String)
  /-- A required member is absent. -/
  | missingField (name : String)
  /-- A member is named twice. -/
  | duplicateField (name : String)
  /-- The model refuses the value itself. -/
  | model (e : AuthzError)
  deriving DecidableEq, Repr

/-- Names in backticks. -/
def DecodeError.ticked (n : String) : String := "`" ++ n ++ "`"

/-- The list of accepted variant names, in words. -/
def DecodeError.oneOf : List String → String
  | [] => "there are no variants"
  | [a] => "expected " ++ ticked a
  | [a, b] => "expected " ++ ticked a ++ " or " ++ ticked b
  | names => "expected one of " ++ ", ".intercalate (names.map ticked)

/-- The wording of a failure. -/
def DecodeError.message : DecodeError → String
  | .invalidType got exp => "invalid type: " ++ got.describe ++ ", expected " ++ exp
  | .invalidValue got exp => "invalid value: " ++ got.describe ++ ", expected " ++ exp
  | .invalidLength n exp => "invalid length " ++ toString n ++ ", expected " ++ exp
  | .unknownVariant n vs => "unknown variant " ++ ticked n ++ ", " ++ oneOf vs
  | .missingField n => "missing field " ++ ticked n
  | .duplicateField n => "duplicate field " ++ ticked n
  | .model e => e.message

/-- A reader of one value. -/
abbrev Decoder (α : Type) := Datum → Except DecodeError α

namespace Decode

/-- A text. -/
def text : Decoder String
  | .str s => .ok s
  | j => .error (.invalidType j.unexpected "a string")

/-- A truth value. -/
def bool : Decoder Bool
  | .bool b => .ok b
  | j => .error (.invalidType j.unexpected "a boolean")

/-- A whole number between `lo` and `hi`, named `name` in a failure. -/
def integer (lo hi : Int) (name : String) : Decoder Int
  | .nat n => if lo ≤ n ∧ n ≤ hi then .ok n else .error (.invalidValue (.integer n) name)
  | .int i => if lo ≤ i ∧ i ≤ hi then .ok i else .error (.invalidValue (.integer i) name)
  | j => .error (.invalidType j.unexpected name)

/-- An unsigned 64-bit number. -/
def u64 (j : Datum) : Except DecodeError Nat :=
  (integer 0 (Int.pow 2 64 - 1) "u64" j).map Int.toNat

/-- An unsigned 32-bit number. -/
def u32 (j : Datum) : Except DecodeError Nat :=
  (integer 0 (Int.pow 2 32 - 1) "u32" j).map Int.toNat

/-- A signed 64-bit number. -/
def i64 : Decoder Int :=
  integer (-(Int.pow 2 63)) (Int.pow 2 63 - 1) "i64"

/-- An optional value: no value is absent. -/
def option {α : Type} (d : Decoder α) : Decoder (Option α)
  | .unit => .ok none
  | j => (d j).map some

/-- A list of values. -/
def list {α : Type} (d : Decoder α) : Decoder (List α)
  | .seq items => items.mapM d
  | j => .error (.invalidType j.unexpected "a sequence")

/-- A set of texts. -/
def textSet (j : Datum) : Except DecodeError (List String) :=
  (list text j).map TextSet.ofList

/-- A variant of an enumeration by its name. -/
def variantNamed {α : Type} (variants : List (String × α)) (s : String) : Except DecodeError α :=
  match variants.find? (·.1 == s) with
  | some (_, a) => .ok a
  | none => .error (.unknownVariant s (variants.map (·.1)))

/-- A variant by its name, or by its position among the variants given as a
number without a sign. -/
def variant {α : Type} (variants : List (String × α)) : Decoder α
  | .str s => variantNamed variants s
  | .nat n =>
    match variants[n]? with
    | some (_, a) => .ok a
    | none => .error (.invalidValue (.integer n)
      ("variant index 0 <= i < " ++ toString variants.length))
  | j => .error (.invalidType j.unexpected "variant identifier")

/-- The value a unit variant written as a mapping holds: none, or, when
`emptyMap` holds, also an empty mapping. -/
def unitPayload (emptyMap : Bool) : Datum → Except DecodeError Unit
  | .unit => .ok ()
  | .map [] => if emptyMap then .ok () else .error (.invalidType .map "unit")
  | j => .error (.invalidType j.unexpected "unit")

/-- An enumeration of unit variants written as a variant's name, or as a
mapping with exactly one key, which names the variant (`variant`), and whose
value is no value (see `unitPayload`). -/
def enumWith {α : Type} (emptyMap : Bool) (variants : List (String × α)) : Decoder α
  | .str s => variantNamed variants s
  | .map [(k, v)] => do
    let a ← variant variants k
    unitPayload emptyMap v
    return a
  | .map _ => .error (.invalidValue .map "map with a single key")
  | j => .error (.invalidType j.unexpected "string or map")

/-- An enumeration inside a value that was first read as a whole, such as
the members beside a flattened record or the payload of a tagged one: an
empty object also stands for no value there. -/
def enumName {α : Type} (variants : List (String × α)) : Decoder α :=
  enumWith true variants

/-- An enumeration read directly from a JSON value. -/
def enumValue {α : Type} (variants : List (String × α)) : Decoder α :=
  enumWith false variants

/-- The member of a record that a key names, among the `known` members in
the order the record declares them: a text by itself, a number without a
sign by its position; `none` when it names none of them. -/
def fieldKey (known : List String) : Datum → Except DecodeError (Option String)
  | .str s => .ok (if s ∈ known then some s else none)
  | .nat n => .ok known[n]?
  | j => .error (.invalidType j.unexpected "field identifier")

/-- Walks a mapping's entries in order: an entry whose key names a `known`
member is read into the record by `step`, a member named twice is refused,
and the others are passed over. -/
def members {σ : Type} (known : List String) (step : σ → String → Datum → Except DecodeError σ) :
    σ → List String → List (Datum × Datum) → Except DecodeError σ
  | acc, _, [] => .ok acc
  | acc, seen, (k, v) :: rest =>
    match fieldKey known k with
    | .error e => .error e
    | .ok none => members known step acc seen rest
    | .ok (some name) =>
      if name ∈ seen then .error (.duplicateField name)
      else
        match step acc name v with
        | .ok acc' => members known step acc' (name :: seen) rest
        | .error e => .error e

/-- Entries keyed by texts, as a record reads members named by their text. -/
def byName (fields : List (String × Datum)) : List (Datum × Datum) :=
  fields.map fun (k, v) => (.str k, v)

/-- The entries of a mapping whose keys are texts, with those texts; an entry
with a key of another kind is left out. A JSON object has texts for keys
only (`Datum.ofJsonFields_keys`). -/
def textKeyed (entries : List (Datum × Datum)) : List (String × Datum) :=
  entries.filterMap fun (k, v) =>
    match k with
    | .str s => some (s, v)
    | _ => none

/-- The words for a sequence of `n` elements. -/
def inSequence (n : Nat) : String :=
  if n == 1 then "1 element in sequence" else toString n ++ " elements in sequence"

/-- Reads the elements of a sequence as a record's members in the order the
record declares them, the `i`-th element as the `i`-th key, and returns the
record with the number of elements read. A sequence longer than the list of
keys is refused once every key has been read. -/
def elements {σ : Type} (step : σ → String → Datum → Except DecodeError σ) :
    σ → List String → List Datum → Nat → Except DecodeError (σ × Nat)
  | acc, _, [], n => .ok (acc, n)
  | _, [], extra, n => .error (.invalidLength (n + extra.length) (inSequence n))
  | acc, k :: ks, v :: vs, n =>
    match step acc k v with
    | .ok acc' => elements step acc' ks vs (n + 1)
    | .error e => .error e

/-- A sequence read as a record is read to its end: the count returned is
the count given plus every element. -/
theorem elements_count {σ : Type} {step : σ → String → Datum → Except DecodeError σ}
    {acc r : σ} {keys : List String} {items : List Datum} {n m : Nat}
    (h : elements step acc keys items n = .ok (r, m)) : m = n + items.length := by
  induction items generalizing acc keys n with
  | nil =>
    simp only [elements, Except.ok.injEq, Prod.mk.injEq] at h
    simp [h.2]
  | cons v vs ih =>
    cases keys with
    | nil => simp [elements] at h
    | cons k ks =>
      simp only [elements] at h
      split at h
      · have := ih h
        simp only [List.length_cons]
        omega
      · cases h

/-- A required member of a record read from a sequence: the failure for its
absence names its place among the members and the record's size. -/
def requiredAt {α : Type} (index : Nat) (expected : String) : Option α → Except DecodeError α
  | some a => .ok a
  | none => .error (.invalidLength index expected)

/-- A required member that was read, or the failure for its absence. -/
def required {α : Type} (name : String) : Option α → Except DecodeError α
  | some a => .ok a
  | none => .error (.missingField name)

/-- The entries of a mapping, or the failure for another kind of value. -/
def object (expected : String) : Datum → Except DecodeError (List (Datum × Datum))
  | .map entries => .ok entries
  | j => .error (.invalidType j.unexpected expected)

end Decode

end GeoAccess
