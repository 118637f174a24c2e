/-!
# JSON values

The documents that rules, requests and answers are exchanged as. A number is
an integer or, when it has a fraction or an exponent, a floating value kept as
its text: no answer of this library carries one, and a reader only needs to
tell the two apart.

- `Json.compact` writes a value on one line, `Json.pretty` indented by two
  spaces per level with one member or element per line.
- `Json.present` builds an object of the present members, sorted by key, the
  order in which maps are kept.
- `Json.escape` writes a string literal: the quote and backslash escaped,
  control characters as `\b \f \n \r \t` or `\u00XX`, everything else as it is.
-/

namespace GeoAccess

/-- A JSON value. -/
inductive Json where
  | null
  | bool (b : Bool)
  | int (i : Int)
  /-- A number with a fraction or exponent, as written. -/
  | float (text : String)
  | str (s : String)
  | arr (items : List Json)
  | obj (fields : List (String × Json))
  deriving Repr, Inhabited

namespace Json

/-- Object members in ascending order of their keys. -/
def sortFields (fields : List (String × Json)) : List (String × Json) :=
  fields.mergeSort fun a b => decide (a.1 ≤ b.1)

/-- A natural number as a JSON number. -/
def nat (n : Nat) : Json := .int n

/-- An optional value, `null` when absent. -/
def opt {α : Type} (f : α → Json) : Option α → Json
  | some a => f a
  | none => .null

/-- The object of the present members only: a member whose value is `none` is
left out. -/
def present (fields : List (String × Option Json)) : Json :=
  .obj (sortFields (fields.filterMap fun (k, v) => v.map (k, ·)))

/-- The value of a key in an object. -/
def field? (j : Json) (key : String) : Option Json :=
  match j with
  | .obj fields => (fields.find? (·.1 == key)).map (·.2)
  | _ => none

/-- Two hexadecimal digits of a byte, lower case. -/
def hexByte (n : Nat) : String :=
  let d := fun (k : Nat) => if k < 10 then Char.ofNat (48 + k) else Char.ofNat (87 + k)
  String.ofList [d (n / 16 % 16), d (n % 16)]

/-- The escaped form of one character inside a string literal. -/
def escapeChar (c : Char) : String :=
  if c = '"' then "\\\""
  else if c = '\\' then "\\\\"
  else if c = '\n' then "\\n"
  else if c = '\r' then "\\r"
  else if c = '\t' then "\\t"
  else if c = '\x08' then "\\b"
  else if c = '\x0c' then "\\f"
  else if c.toNat < 0x20 then "\\u00" ++ hexByte c.toNat
  else c.toString

/-- A string literal. -/
def escape (s : String) : String :=
  "\"" ++ String.join (s.toList.map escapeChar) ++ "\""

/-- The one-line text of a value. -/
def compact : Json → String
  | .null => "null"
  | .bool b => if b then "true" else "false"
  | .int i => toString i
  | .float t => t
  | .str s => escape s
  | .arr items => "[" ++ ",".intercalate (items.attach.map fun ⟨v, _⟩ => compact v) ++ "]"
  | .obj fields =>
    "\x7b" ++ ",".intercalate (fields.attach.map fun ⟨kv, _⟩ =>
      escape kv.1 ++ ":" ++ compact kv.2) ++ "\x7d"
termination_by j => sizeOf j
decreasing_by
  · have h := List.sizeOf_lt_of_mem ‹_›
    simp only [arr.sizeOf_spec]
    omega
  · have h := List.sizeOf_lt_of_mem ‹_›
    have h2 : sizeOf kv.2 < sizeOf kv := by cases kv; simp only [Prod.mk.sizeOf_spec]; omega
    simp only [obj.sizeOf_spec]
    omega

/-- Spaces for an indentation depth. -/
def indent (depth : Nat) : String :=
  String.ofList (List.replicate (2 * depth) ' ')

/-- The indented text of a value at a depth: an empty array or object stays on
its line, a nonempty one puts each element on a line of its own. -/
def prettyAt (depth : Nat) : Json → String
  | .arr [] => "[]"
  | .obj [] => "\x7b\x7d"
  | .arr items =>
    "[\n" ++ ",\n".intercalate (items.attach.map fun ⟨v, _⟩ =>
      indent (depth + 1) ++ prettyAt (depth + 1) v) ++ "\n" ++ indent depth ++ "]"
  | .obj fields =>
    "\x7b\n" ++ ",\n".intercalate (fields.attach.map fun ⟨kv, _⟩ =>
      indent (depth + 1) ++ escape kv.1 ++ ": " ++ prettyAt (depth + 1) kv.2) ++ "\n" ++
      indent depth ++ "\x7d"
  | j => compact j
termination_by j => sizeOf j
decreasing_by
  · have h := List.sizeOf_lt_of_mem ‹_›
    simp only [arr.sizeOf_spec]
    omega
  · have h := List.sizeOf_lt_of_mem ‹_›
    have h2 : sizeOf kv.2 < sizeOf kv := by cases kv; simp only [Prod.mk.sizeOf_spec]; omega
    simp only [obj.sizeOf_spec]
    omega

/-- The indented text of a value. -/
def pretty (j : Json) : String := prettyAt 0 j

end Json

end GeoAccess
