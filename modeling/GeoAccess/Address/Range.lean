import GeoAccess.Address.Ip
import GeoAccess.Error
import GeoAccess.Text.Blank
import GeoAccess.Text.Numeral

/-!
# Address ranges

A block of addresses given by a network address and a prefix length, written
`network/prefix`. A range carries the proofs that its prefix is no longer than
its family's width and that its network is masked to the prefix, so two
signatures naming the same block are the same value (`10.0.0.7/8` is
`10.0.0.0/8`).

- `AddressRange.parse` reads a signature: the text is trimmed of blanks, split
  at its first `/`, the part before read as an address and the part after as a
  decimal byte (an optional `+` and leading zeros allowed); with no `/` the
  prefix is the family's width, so a bare address is a single-host range.
- `AddressRange.render` writes the canonical `network/prefix`.
- `AddressRange.contains` says whether an address lies in the block: an
  IPv4-mapped IPv6 address is first taken as its IPv4 address, an address of
  the other family never lies in it, and otherwise the first `prefix` bits
  must agree with the network's.
-/

namespace GeoAccess

namespace IpAddr

/-- The address with all bits after the first `p` cleared: zero for an empty
prefix, else the word and-ed with all ones shifted left by `width - p`. -/
def mask (a : IpAddr) (p : Nat) : IpAddr :=
  match a with
  | .v4 b => .v4 (if p = 0 then 0 else b &&& BitVec.allOnes 32 <<< (32 - p))
  | .v6 b => .v6 (if p = 0 then 0 else b &&& BitVec.allOnes 128 <<< (128 - p))

@[simp] theorem width_mask (a : IpAddr) (p : Nat) : (a.mask p).width = a.width := by
  cases a <;> rfl

/-- Masking twice is masking once. -/
theorem mask_mask (a : IpAddr) (p : Nat) : (a.mask p).mask p = a.mask p := by
  by_cases hp : p = 0 <;> cases a <;> simp [mask, hp, BitVec.and_assoc]

/-- An IPv4-mapped IPv6 address as its IPv4 address, the low 32 bits; any
other address as it is. -/
def unmap : IpAddr → IpAddr
  | .v6 b => if b.toNat / 0x100000000 = 0xFFFF then .v4 (b.setWidth 32) else .v6 b
  | a => a

end IpAddr

/-- A block of addresses: a network masked to its prefix length. The proofs
have defaults that settle them for a range written out in full. -/
@[ext] structure AddressRange where
  /-- The network address, with the bits after the prefix cleared. -/
  network : IpAddr
  /-- The number of leading bits that every address of the block shares. -/
  prefixLen : Nat
  prefixLen_le : prefixLen ≤ network.width := by decide
  masked : network.mask prefixLen = network := by decide
  deriving DecidableEq, Repr

namespace AddressRange

/-- The block of `p` leading bits of `a`, refused when `p` exceeds the width of
the family of `a`. -/
def make (a : IpAddr) (p : Nat) : Except AuthzError AddressRange :=
  if h : p > a.width then
    .error (.invalidAddressRange
      (a.render ++ "/" ++ toString p ++ ": prefix exceeds " ++ toString a.width))
  else .ok ⟨a.mask p, p, (IpAddr.width_mask a p).symm ▸ Nat.le_of_not_lt h, IpAddr.mask_mask a p⟩

/-- The address text before the first `/`, and the text after it if any. -/
def splitSignature (cs : List Char) : List Char × Option (List Char) :=
  match cs.span (· ≠ '/') with
  | (before, []) => (before, none)
  | (before, _ :: after) => (before, some after)

/-- Reads a signature `address[/prefix]` after trimming blanks. -/
def parse (text : String) : Except AuthzError AddressRange :=
  let cs := Text.trimBlankChars text.toList
  let refuse : Except AuthzError AddressRange := .error (.invalidAddressRange (String.ofList cs))
  let (addressPart, prefixPart) := splitSignature cs
  match IpAddr.parseChars addressPart with
  | none => refuse
  | some a =>
    match prefixPart with
    | none => make a a.width
    | some p =>
      match Numeral.readUnsignedChars Numeral.u8Max p with
      | .error _ => refuse
      | .ok n => make a n

/-- The canonical signature `network/prefix`. -/
def render (r : AddressRange) : String :=
  r.network.render ++ "/" ++ toString r.prefixLen

/-- Whether an address lies in the block. -/
def contains (r : AddressRange) (a : IpAddr) : Bool :=
  let a := a.unmap
  IpAddr.sameFamily r.network a && a.mask r.prefixLen == r.network

example : (parse "10.0.0.7/8").map render = .ok "10.0.0.0/8" := by rfl
example : (parse "::/255").map render =
    .error (.invalidAddressRange "::/255: prefix exceeds 128") := by rfl
example : (parse "\t192.168.0.0/16\n").map render = .ok "192.168.0.0/16" := by rfl

end AddressRange

end GeoAccess
