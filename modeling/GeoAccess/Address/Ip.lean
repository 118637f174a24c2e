/-!
# Internet addresses

An address of either family as its word: 32 bits for IPv4, 128 for IPv6. The
text forms are the standard ones.

Reading accepts:
- IPv4 as four dotted decimal octets, each at most 255, with no leading zero
  (`010` is refused, so that no octet reads as octal);
- IPv6 as up to eight colon-separated groups of one to four hexadecimal digits
  in either case, with at most one `::` standing for a run of one or more zero
  groups, and with the last two groups optionally written as a dotted IPv4
  address (never before the `::`).

Nothing else is accepted: no blanks, brackets, zone identifiers or prefix.

Writing gives:
- IPv4 as four dotted octets;
- an IPv6 address whose first 80 bits are zero and next 16 are one (an
  IPv4-mapped address) as `::ffff:a.b.c.d`;
- any other IPv6 address as its eight groups in lower-case hexadecimal without
  leading zeros, where the first longest run of two or more zero groups is
  written `::`.
-/

namespace GeoAccess

/-- An address of either family, as its word. -/
inductive IpAddr where
  /-- An IPv4 address. -/
  | v4 (bits : BitVec 32)
  /-- An IPv6 address. -/
  | v6 (bits : BitVec 128)
  deriving DecidableEq, Repr

namespace IpAddr

/-- The number of bits of an address's family. -/
def width : IpAddr → Nat
  | .v4 _ => 32
  | .v6 _ => 128

/-- The number the bits of an address spell. -/
def bits : IpAddr → Nat
  | .v4 b => b.toNat
  | .v6 b => b.toNat

/-- An address has the width of its family. -/
theorem bits_lt (a : IpAddr) : a.bits < Nat.pow 2 a.width := by
  cases a with
  | v4 b => exact b.isLt
  | v6 b => exact b.isLt

/-- Two addresses are of the same family. -/
def sameFamily : IpAddr → IpAddr → Bool
  | .v4 _, .v4 _ => true
  | .v6 _, .v6 _ => true
  | _, _ => false

/-! ### Reading -/

/-- The value of a digit in base 10, or in base 16 with letters of either case. -/
def digitIn (radix : Nat) (c : Char) : Option Nat :=
  if c.isDigit then some (c.toNat - '0'.toNat)
  else if radix = 16 ∧ 'a' ≤ c ∧ c ≤ 'f' then some (c.toNat - 'a'.toNat + 10)
  else if radix = 16 ∧ 'A' ≤ c ∧ c ≤ 'F' then some (c.toNat - 'A'.toNat + 10)
  else none

/-- Reads digits onto `acc` after `count` digits so far; gives up when the value
passes `bound` or the digits pass `maxDigits`. Returns the value, the number of
digits and the rest. -/
def readDigits (radix bound maxDigits : Nat) :
    Nat → Nat → List Char → Option (Nat × Nat × List Char)
  | acc, count, [] => some (acc, count, [])
  | acc, count, c :: cs =>
    match digitIn radix c with
    | none => some (acc, count, c :: cs)
    | some d =>
      if acc * radix + d > bound then none
      else if count + 1 > maxDigits then none
      else readDigits radix bound maxDigits (acc * radix + d) (count + 1) cs

/-- Reads a number of one to `maxDigits` digits, at most `bound`; with
`zeroLead` false a number of two or more digits may not start with `0`. -/
def readNumber (radix bound maxDigits : Nat) (zeroLead : Bool) (cs : List Char) :
    Option (Nat × List Char) :=
  match readDigits radix bound maxDigits 0 0 cs with
  | none => none
  | some (v, count, rest) =>
    if count = 0 then none
    else if !zeroLead && cs.head? = some '0' && count > 1 then none
    else some (v, rest)

/-- Reads an IPv4 octet. -/
def readOctet (cs : List Char) : Option (Nat × List Char) :=
  readNumber 10 255 3 false cs

/-- Reads an IPv6 group. -/
def readGroup (cs : List Char) : Option (Nat × List Char) :=
  readNumber 16 0xFFFF 4 true cs

/-- The rest after a given character, if the text starts with it. -/
def expect (c : Char) : List Char → Option (List Char)
  | d :: ds => if d = c then some ds else none
  | [] => none

/-- Reads a dotted IPv4 address, as its 32 bits. -/
def readV4 (cs : List Char) : Option (Nat × List Char) := do
  let (a, r) ← readOctet cs
  let r ← expect '.' r
  let (b, r) ← readOctet r
  let r ← expect '.' r
  let (c, r) ← readOctet r
  let r ← expect '.' r
  let (d, r) ← readOctet r
  return (((a * 256 + b) * 256 + c) * 256 + d, r)

/-- Reads at most `left` colon-separated groups (no colon before the first when
`first`). While two or more groups may follow, a dotted IPv4 address is tried
first; it counts as two groups and ends the run. Returns the groups, whether
the run ended in an IPv4 address, and the rest, which starts before any colon
that no group followed. -/
def readGroups : Nat → Bool → List Char → List Nat × Bool × List Char
  | 0, _, cs => ([], false, cs)
  | left + 1, first, cs =>
    let afterSep : Option (List Char) := if first then some cs else expect ':' cs
    let dotted : Option (Nat × List Char) :=
      if left ≥ 1 then afterSep.bind readV4 else none
    match dotted with
    | some (v, rest) => ([v / 0x10000, v % 0x10000], true, rest)
    | none =>
      match afterSep.bind readGroup with
      | some (g, rest) =>
        let (gs, dot, rest') := readGroups left false rest
        (g :: gs, dot, rest')
      | none => ([], false, cs)

/-- The number that eight 16-bit groups spell, the first group highest. -/
def ofGroups (gs : List Nat) : Nat :=
  gs.foldl (fun acc g => acc * 0x10000 + g) 0

/-- Reads an IPv6 address, as its 128 bits. -/
def readV6 (cs : List Char) : Option (Nat × List Char) :=
  let (head, headDotted, rest) := readGroups 8 true cs
  if head.length = 8 then some (ofGroups head, rest)
  else if headDotted then none
  else
    match rest with
    | ':' :: ':' :: rest' =>
      let (tail, _, rest'') := readGroups (8 - (head.length + 1)) true rest'
      some (ofGroups (head ++ List.replicate (8 - head.length - tail.length) 0 ++ tail), rest'')
    | _ => none

/-- Reads a whole text as an address: as IPv4 if it starts like one, else as
IPv6. -/
def parseChars (cs : List Char) : Option IpAddr :=
  match readV4 cs with
  | some (v, rest) => if rest = [] then some (.v4 (BitVec.ofNat 32 v)) else none
  | none =>
    match readV6 cs with
    | some (v, rest) => if rest = [] then some (.v6 (BitVec.ofNat 128 v)) else none
    | none => none

/-- Reads a whole text as an address. -/
def parse (s : String) : Option IpAddr :=
  parseChars s.toList

/-! ### Writing -/

/-- Lower-case hexadecimal digits of a number, without leading zeros. -/
def hex (n : Nat) : String :=
  String.ofList (Nat.toDigits 16 n)

/-- The dotted form of 32 bits. -/
def dotted (b : Nat) : String :=
  toString (b / 0x1000000 % 256) ++ "." ++ toString (b / 0x10000 % 256) ++ "." ++
    toString (b / 0x100 % 256) ++ "." ++ toString (b % 256)

/-- The eight 16-bit groups of 128 bits, the highest first. -/
def groups (b : Nat) : List Nat :=
  (List.range 8).map fun i => b / Nat.pow 0x10000 (7 - i) % 0x10000

/-- The first longest run of zero groups, as its start and its length; a run
replaces the best one only when it is strictly longer. -/
def zeroRun (gs : List Nat) : Nat × Nat :=
  let step := fun (st : (Nat × Nat) × (Nat × Nat) × Nat) (g : Nat) =>
    let (best, cur, i) := st
    if g = 0 then
      let cur := if cur.2 = 0 then (i, 1) else (cur.1, cur.2 + 1)
      let best := if cur.2 > best.2 then cur else best
      (best, cur, i + 1)
    else (best, (0, 0), i + 1)
  (gs.foldl step ((0, 0), (0, 0), 0)).1

/-- Groups joined by colons. -/
def joinGroups (gs : List Nat) : String :=
  ":".intercalate (gs.map hex)

/-- The text of 128 bits: IPv4-mapped form, or groups with the first longest
run of two or more zero groups compressed. -/
def hexForm (b : Nat) : String :=
  if b / 0x100000000 = 0xFFFF then "::ffff:" ++ dotted (b % 0x100000000)
  else
    let gs := groups b
    let (start, len) := zeroRun gs
    if len > 1 then
      joinGroups (gs.take start) ++ "::" ++ joinGroups (gs.drop (start + len))
    else joinGroups gs

/-- The text of an address. -/
def render : IpAddr → String
  | .v4 b => dotted b.toNat
  | .v6 b => hexForm b.toNat

example : parse "10.10.100.4" = some (.v4 0x0A0A6404) := by decide
example : parse "010.10.100.4" = none := by decide
example : (parse "::ffff:10.1.2.3").map render = some "::ffff:10.1.2.3" := by decide
example : (parse "2001:0db8:0000:0000:0000:0000:0000:0001").map render = some "2001:db8::1" := by
  decide
example : (parse "2001:db8:0:0:1:0:0:1").map render = some "2001:db8::1:0:0:1" := by decide
example : parse "1.2.3.4:80" = none := by decide

end IpAddr

end GeoAccess
