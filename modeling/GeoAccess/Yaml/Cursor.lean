/-!
# Reading position in markup text

The markup reader walks the text as a list of characters together with the
position of the first unread one (`Cursor`). A position (`Mark`) counts
bytes of the UTF-8 text from the start, lines from 0 and characters of the
line from 0; it is written
`line L column C` counting both from 1, or `position N` at the very start.

Line breaks are CR, LF, CR LF, NEL, LS and PS; a break read into a value
becomes LF, except LS and PS, which are kept.

`SyntaxError` is a failure to read the text: a problem at a position, and
optionally the construct being read when it happened, with its own
position. Its message names the context's position only when it differs
from the problem's.
-/

namespace GeoAccess.Yaml

/-- A position in the text. -/
structure Mark where
  index : Nat := 0
  line : Nat := 0
  column : Nat := 0
  deriving DecidableEq, Repr, Inhabited

namespace Mark

/-- Whether the position is past the first character of the first line. -/
def isPlaced (m : Mark) : Bool := m.line != 0 || m.column != 0

/-- The position after the character `ch` on the same line: a character
takes as many bytes as its UTF-8 encoding and one column. -/
def pass (m : Mark) (ch : Char) : Mark :=
  { m with index := m.index + ch.utf8Size, column := m.column + 1 }

/-- The position in words. -/
def render (m : Mark) : String :=
  if m.isPlaced then "line " ++ toString (m.line + 1) ++ " column " ++ toString (m.column + 1)
  else "position " ++ toString m.index

end Mark

/-- A failure to read the text. -/
structure SyntaxError where
  problem : String
  problemMark : Mark := {}
  /-- The byte offset of a character the text may not hold. -/
  problemOffset : Nat := 0
  context : Option (String × Mark) := none
  deriving DecidableEq, Repr

/-- The message of a syntax error. -/
def SyntaxError.message (e : SyntaxError) : String :=
  let base :=
    if e.problemMark.isPlaced then e.problem ++ " at " ++ e.problemMark.render
    else if e.problemOffset != 0 then e.problem ++ " at position " ++ toString e.problemOffset
    else e.problem
  match e.context with
  | none => base
  | some (c, m) =>
    if m.isPlaced && (m.line != e.problemMark.line || m.column != e.problemMark.column) then
      base ++ ", " ++ c ++ " at " ++ m.render
    else base ++ ", " ++ c

/-- A line break. -/
def isBreak (c : Char) : Bool :=
  c == '\r' || c == '\n' || c == '\x85' || c == '\u2028' || c == '\u2029'

/-- A space or a tab. -/
def isBlank (c : Char) : Bool := c == ' ' || c == '\t'

/-- A character of an anchor, a directive name or a tag handle. -/
def isWordChar (c : Char) : Bool :=
  ('0' ≤ c && c ≤ '9') || ('a' ≤ c && c ≤ 'z') || ('A' ≤ c && c ≤ 'Z') || c == '_' || c == '-'

/-- A hexadecimal digit. -/
def isHexDigit (c : Char) : Bool :=
  ('0' ≤ c && c ≤ '9') || ('a' ≤ c && c ≤ 'f') || ('A' ≤ c && c ≤ 'F')

/-- The value of a hexadecimal digit. -/
def hexValue (c : Char) : Nat :=
  if '0' ≤ c && c ≤ '9' then c.toNat - '0'.toNat
  else if 'a' ≤ c && c ≤ 'f' then c.toNat - 'a'.toNat + 10
  else c.toNat - 'A'.toNat + 10

/-- A character the text may hold. -/
def isPrintable (c : Char) : Bool :=
  let v := c.toNat
  v == 0x09 || v == 0x0A || v == 0x0D || (0x20 ≤ v && v ≤ 0x7E) || v == 0x85 ||
    (0xA0 ≤ v && v ≤ 0xD7FF) || (0xE000 ≤ v && v ≤ 0xFFFD) || (0x10000 ≤ v && v ≤ 0x10FFFF)

/-- The unread text and the position of its first character. -/
structure Cursor where
  rest : List Char
  mark : Mark := {}
  deriving Repr, Inhabited

namespace Cursor

/-- The character `n` places ahead. -/
def ahead (c : Cursor) (n : Nat) : Option Char := c.rest[n]?

/-- Whether the character `n` places ahead is `ch`. -/
def checkAt (c : Cursor) (n : Nat) (ch : Char) : Bool := c.ahead n == some ch

/-- Whether the next character is `ch`. -/
def check (c : Cursor) (ch : Char) : Bool := c.checkAt 0 ch

/-- Whether the text ends here. -/
def atEnd (c : Cursor) : Bool := c.rest.isEmpty

/-- Whether the character `n` places ahead is a blank. -/
def blankAt (c : Cursor) (n : Nat) : Bool := (c.ahead n).any isBlank

/-- Whether the character `n` places ahead is a line break. -/
def breakAt (c : Cursor) (n : Nat) : Bool := (c.ahead n).any isBreak

/-- Whether the character `n` places ahead is a line break or the end. -/
def breakZAt (c : Cursor) (n : Nat) : Bool := (c.ahead n).all isBreak

/-- Whether the character `n` places ahead is a blank, a line break or the end. -/
def blankZAt (c : Cursor) (n : Nat) : Bool := (c.ahead n).all fun ch => isBlank ch || isBreak ch

def isBlankHere (c : Cursor) : Bool := c.blankAt 0
def isBreakHere (c : Cursor) : Bool := c.breakAt 0
def isBreakZ (c : Cursor) : Bool := c.breakZAt 0
def isBlankZ (c : Cursor) : Bool := c.blankZAt 0

/-- Passes one character on the same line. -/
def skip (c : Cursor) : Cursor :=
  match c.rest with
  | [] => c
  | ch :: rest => { rest, mark := c.mark.pass ch }

/-- Passes `n` characters on the same line. -/
def skipN (c : Cursor) : Nat → Cursor
  | 0 => c
  | n + 1 => (c.skip).skipN n

/-- The position at the start of the next line, `k` bytes on. -/
def nextLine (m : Mark) (k : Nat) : Mark := { index := m.index + k, line := m.line + 1, column := 0 }

/-- Passes a line break. -/
def skipLine (c : Cursor) : Cursor :=
  match c.rest with
  | '\r' :: '\n' :: rest => { rest, mark := nextLine c.mark 2 }
  | ch :: rest => if isBreak ch then { rest, mark := nextLine c.mark ch.utf8Size } else c
  | [] => c

/-- Reads a line break: CR LF, CR, LF and NEL give LF; LS and PS stay. -/
def readLine (c : Cursor) : String × Cursor :=
  match c.rest with
  | '\r' :: '\n' :: rest => ("\n", { rest, mark := nextLine c.mark 2 })
  | ch :: rest =>
    if ch == '\r' || ch == '\n' || ch == '\x85' then ("\n", { rest, mark := nextLine c.mark ch.utf8Size })
    else if ch == '\u2028' || ch == '\u2029' then (ch.toString, { rest, mark := nextLine c.mark ch.utf8Size })
    else ("", c)
  | [] => ("", c)

/-- Reads one character on the same line. -/
def read (c : Cursor) : String × Cursor :=
  match c.rest with
  | ch :: _ => (ch.toString, c.skip)
  | [] => ("", c)

theorem skip_rest_length (c : Cursor) (h : c.rest ≠ []) : c.skip.rest.length < c.rest.length := by
  unfold skip
  split
  · contradiction
  · simp_all

end Cursor

end GeoAccess.Yaml
