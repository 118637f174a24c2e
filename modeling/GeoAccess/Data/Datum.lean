import GeoAccess.Data.Json

/-!
# Values of a document

A value read from a document as a whole, before the type it is read into is
known: the members beside a flattened record, or the payload of a tagged
one. It keeps what the reader of that type can still ask of it, which is
more than a JSON value holds:

- a whole number remembers whether it was written with a minus sign
  (`int`, also for `-0`) or without (`nat`), because only the latter can name
  a member or a variant by its position;
- a mapping's keys are values too, so that a key `1` is a number and a key
  `"1"` a text.

`Datum.ofJson` reads a JSON value so: a number without a minus sign is a
`nat`, and every key is a text.
-/

namespace GeoAccess

/-- A value of a document, with mappings whose keys are values. -/
inductive Datum where
  | unit
  | bool (b : Bool)
  /-- A whole number written without a minus sign. -/
  | nat (n : Nat)
  /-- A whole number written with a minus sign. -/
  | int (i : Int)
  /-- A number with a fraction or an exponent, as it is written. -/
  | float (text : String)
  | str (s : String)
  | seq (items : List Datum)
  | map (entries : List (Datum × Datum))
  deriving Repr, Inhabited

namespace Datum

/-- A whole number: without a minus sign when it is not negative. -/
def ofInt (i : Int) : Datum :=
  if 0 ≤ i then .nat i.toNat else .int i

mutual

/-- The value of a JSON value: numbers by their sign, keys as texts. -/
def ofJson : Json → Datum
  | .null => .unit
  | .bool b => .bool b
  | .int i => ofInt i
  | .float t => .float t
  | .str s => .str s
  | .arr items => .seq (ofJsonItems items)
  | .obj fields => .map (ofJsonFields fields)

/-- The values of JSON elements, in order. -/
def ofJsonItems : List Json → List Datum
  | [] => []
  | j :: js => ofJson j :: ofJsonItems js

/-- The entries of JSON members, in order, each key a text. -/
def ofJsonFields : List (String × Json) → List (Datum × Datum)
  | [] => []
  | (k, j) :: rest => (.str k, ofJson j) :: ofJsonFields rest

end

/-- Every key of a JSON object is a text. -/
theorem ofJsonFields_keys (fields : List (String × Json)) :
    (ofJsonFields fields).map (·.1) = fields.map (Datum.str ·.1) := by
  induction fields with
  | nil => simp [ofJsonFields]
  | cons kv rest ih =>
    obtain ⟨k, j⟩ := kv
    simp [ofJsonFields, ih]

end Datum

end GeoAccess
