import Mathlib
import GeoAccess.Match
import GeoAccess.Proofs.Signature

/-!
# Which addresses a range contains

A range contains an address exactly when the address, an IPv4-mapped IPv6
address taken as its IPv4 address, is of the range's family and agrees with
the network on the first `prefix` bits (`AddressRange.contains_iff`). Bits are
counted from the most significant one of the family's width
(`IpAddr.SharePrefix`). The mask clears the bits after the prefix
(`IpAddr.bits_mask`, from `toNat_and_allOnes_shiftLeft`), so agreement there
is what masking both addresses compares (`IpAddr.mask_eq_mask_iff`, from
`div_two_pow_mul_eq_iff`).

Because the mapped addresses are taken as IPv4 before the families are
compared, an IPv6 range never contains one, even a range that names such an
address: `::/0` misses `::ffff:1.2.3.4`, and the range of a mapped network
contains no address at all (`AddressRange.contains_of_network_isMapped`). Any
other range contains its own network (`AddressRange.contains_network_iff`).
A bare address reads as the single-host range on that address, which is the
address a request from the same text comes from
(`AddressRange.parse_bare`).

* `containment_is_prefix_agreement`: the three together, for every range.
-/

namespace GeoAccess

/-- Clearing the low `k` bits of two numbers below `2 ^ w` gives one number
exactly when they agree on the bits from `k` up to `w`. -/
theorem div_two_pow_mul_eq_iff {x y k w : Nat} (hx : x < 2 ^ w) (hy : y < 2 ^ w) :
    x / 2 ^ k * 2 ^ k = y / 2 ^ k * 2 ^ k ↔ ∀ i, k ≤ i → i < w → x.testBit i = y.testBit i := by
  rw [Nat.mul_left_inj (Nat.two_pow_pos k).ne']
  constructor
  · intro h i hki _
    have hbit := congrArg (Nat.testBit · (i - k)) h
    simpa only [Nat.testBit_div_two_pow, Nat.sub_add_cancel hki] using hbit
  · intro h
    refine Nat.eq_of_testBit_eq fun j => ?_
    rw [Nat.testBit_div_two_pow, Nat.testBit_div_two_pow]
    by_cases hj : j + k < w
    · exact h _ (Nat.le_add_left k j) hj
    · have hw : 2 ^ w ≤ 2 ^ (j + k) := Nat.pow_le_pow_right (by decide) (by omega)
      rw [Nat.testBit_lt_two_pow (Nat.lt_of_lt_of_le hx hw),
        Nat.testBit_lt_two_pow (Nat.lt_of_lt_of_le hy hw)]

/-- All ones shifted left by `s` keep the bits of a word from `s` up, and clear
the low `s` bits (those past the width are clear already). -/
theorem toNat_and_allOnes_shiftLeft {w : Nat} (b : BitVec w) (s : Nat) :
    (b &&& BitVec.allOnes w <<< s).toNat = b.toNat / 2 ^ s * 2 ^ s := by
  refine Nat.eq_of_testBit_eq fun i => ?_
  rw [BitVec.testBit_toNat, BitVec.getLsbD_and, BitVec.getLsbD_shiftLeft, BitVec.getLsbD_allOnes,
    Nat.testBit_mul_two_pow, Nat.testBit_div_two_pow, BitVec.testBit_toNat]
  by_cases hs : s ≤ i
  · rw [Nat.sub_add_cancel hs]
    by_cases hi : i < w
    · simp [hi, hs, Nat.not_lt.mpr hs]
      omega
    · simp [hi, BitVec.getLsbD_of_ge b i (Nat.le_of_not_lt hi)]
  · simp [hs, Nat.lt_of_not_le hs]

/-- The word mask keeps the first `p` of the `w` bits: an empty prefix keeps
nothing of a word, which is below `2 ^ w`. -/
theorem toNat_wordMask {w : Nat} (b : BitVec w) (p : Nat) :
    (if p = 0 then 0 else b &&& BitVec.allOnes w <<< (w - p)).toNat = b.toNat / 2 ^ (w - p) * 2 ^ (w - p) := by
  by_cases hp : p = 0
  · simp [hp, Nat.div_eq_of_lt b.isLt]
  · rw [if_neg hp, toNat_and_allOnes_shiftLeft]

namespace IpAddr

/-- `a` and `b` agree on their first `p` bits, counted from the most
significant bit of the width of `a`'s family. -/
def SharePrefix (p : Nat) (a b : IpAddr) : Prop :=
  ∀ i, a.width - p ≤ i → i < a.width → a.bits.testBit i = b.bits.testBit i

/-- An IPv4-mapped IPv6 address `::ffff:a.b.c.d`: eighty zero bits, sixteen
one bits, then the IPv4 address. -/
def IsMapped : IpAddr → Prop
  | .v4 _ => False
  | .v6 b => b.toNat / Nat.pow 2 32 = 0xFFFF

instance : DecidablePred IsMapped := fun a =>
  match a with
  | .v4 _ => inferInstanceAs (Decidable False)
  | .v6 b => inferInstanceAs (Decidable (b.toNat / Nat.pow 2 32 = 0xFFFF))

theorem SharePrefix.refl (p : Nat) (a : IpAddr) : a.SharePrefix p a :=
  fun _ _ _ => rfl

@[simp] theorem sameFamily_self (a : IpAddr) : a.sameFamily a = true := by
  cases a <;> rfl

theorem sameFamily_comm (a b : IpAddr) : a.sameFamily b = b.sameFamily a := by
  cases a <;> cases b <;> rfl

theorem width_eq_of_sameFamily {a b : IpAddr} (h : a.sameFamily b = true) : a.width = b.width := by
  cases a <;> cases b <;> first | rfl | cases h

theorem sameFamily_mask (a b : IpAddr) (p q : Nat) : (a.mask p).sameFamily (b.mask q) = a.sameFamily b := by
  cases a <;> cases b <;> rfl

/-- Two addresses of one family are one address exactly when their bits
are. -/
theorem eq_iff_bits_eq {a b : IpAddr} (h : a.sameFamily b = true) : a = b ↔ a.bits = b.bits := by
  cases a <;> cases b <;> simp_all [sameFamily, bits, BitVec.toNat_inj]

/-- Masking to `p` bits clears the last `width - p` of them, whatever the
family. -/
theorem bits_mask (a : IpAddr) (p : Nat) :
    (a.mask p).bits = a.bits / 2 ^ (a.width - p) * 2 ^ (a.width - p) := by
  cases a with
  | v4 b => exact toNat_wordMask b p
  | v6 b => exact toNat_wordMask b p

/-- A whole width of prefix keeps every bit. -/
@[simp] theorem mask_width (a : IpAddr) : a.mask a.width = a := by
  cases a <;> simp only [mask, width, Nat.sub_self, BitVec.shiftLeft_zero, BitVec.and_allOnes] <;> rfl

theorem unmap_of_not_isMapped {a : IpAddr} (h : ¬ a.IsMapped) : a.unmap = a := by
  cases a with
  | v4 b => rfl
  | v6 b => exact if_neg h

/-- Only an IPv6 address is mapped. -/
theorem IsMapped.eq_v6 {a : IpAddr} (h : a.IsMapped) : ∃ n, a = .v6 n := by
  cases a with
  | v4 b => exact absurd h not_false
  | v6 n => exact ⟨n, rfl⟩

/-- A mapped address is taken as an IPv4 address. -/
theorem unmap_of_isMapped {a : IpAddr} (h : a.IsMapped) : ∃ b, a.unmap = .v4 b := by
  obtain ⟨n, rfl⟩ := h.eq_v6
  exact ⟨_, if_pos h⟩

/-- Two addresses of one family mask to one address exactly when they agree
on the first `p` bits. -/
theorem mask_eq_mask_iff {a b : IpAddr} (hf : a.sameFamily b = true) (p : Nat) :
    a.mask p = b.mask p ↔ a.SharePrefix p b := by
  rw [eq_iff_bits_eq (by rwa [sameFamily_mask]), bits_mask, bits_mask, ← width_eq_of_sameFamily hf]
  exact div_two_pow_mul_eq_iff a.bits_lt (width_eq_of_sameFamily hf ▸ b.bits_lt)

end IpAddr

namespace AddressRange

/-- What `contains` checks: the family, then the address masked to the prefix
against the network. -/
theorem contains_eq_true_iff_mask (r : AddressRange) (a : IpAddr) :
    r.contains a = true ↔ r.network.sameFamily a.unmap = true ∧ a.unmap.mask r.prefixLen = r.network := by
  simp only [contains, Bool.and_eq_true, beq_iff_eq]

/-- A range contains an address, an IPv4-mapped one taken as its IPv4
address, exactly when it is of the range's family and agrees with the network
on the first `prefix` bits; the network is masked to the prefix already, so
masking compares prefixes. -/
theorem contains_iff (r : AddressRange) (a : IpAddr) :
    r.contains a = true ↔ r.network.sameFamily a.unmap = true ∧ a.unmap.SharePrefix r.prefixLen r.network := by
  rw [contains_eq_true_iff_mask]
  refine and_congr_right fun hf => ?_
  conv_lhs => rw [← r.masked]
  exact IpAddr.mask_eq_mask_iff (IpAddr.sameFamily_comm _ _ ▸ hf) r.prefixLen

/-- An IPv6 range contains no IPv4-mapped address. -/
theorem contains_of_isMapped (r : AddressRange) {n : BitVec 128} (hn : r.network = .v6 n) {a : IpAddr}
    (ha : a.IsMapped) : r.contains a = false := by
  obtain ⟨b, hb⟩ := IpAddr.unmap_of_isMapped ha
  simp [contains, hn, hb, IpAddr.sameFamily]

/-- A range contains its own network, unless the network is an IPv4-mapped
address. -/
theorem contains_network_iff (r : AddressRange) :
    r.contains r.network = true ↔ ¬ r.network.IsMapped := by
  by_cases hm : r.network.IsMapped
  · obtain ⟨n, hn⟩ := hm.eq_v6
    simp [contains_of_isMapped r hn hm, hm]
  · rw [contains_iff, IpAddr.unmap_of_not_isMapped hm]
    simp [hm, IpAddr.SharePrefix.refl]

/-- The network of a range is clear below its prefix. -/
theorem testBit_network (r : AddressRange) {i : Nat} (hi : i < r.network.width - r.prefixLen) :
    r.network.bits.testBit i = false := by
  rw [← r.masked, IpAddr.bits_mask, Nat.testBit_mul_two_pow]
  simp [Nat.not_le.mpr hi]

/-- The range of an IPv4-mapped network contains no address: its prefix
covers the sixteen one bits, since bit 32 of the network is set and the
network is clear below the prefix, so an address in it would be mapped as
well. -/
theorem contains_of_network_isMapped {r : AddressRange} (hm : r.network.IsMapped) (a : IpAddr) :
    r.contains a = false := by
  obtain ⟨n, hn⟩ := hm.eq_v6
  rw [hn] at hm
  by_cases ham : a.IsMapped
  · exact contains_of_isMapped r hn ham
  refine Bool.eq_false_iff.mpr fun hc => ham ?_
  obtain ⟨hf, hs⟩ := (contains_iff r a).mp hc
  rw [IpAddr.unmap_of_not_isMapped ham] at hf hs
  cases a with
  | v4 b => simp [hn, IpAddr.sameFamily] at hf
  | v6 b =>
    simp only [IpAddr.IsMapped, Nat.pow_eq] at hm ⊢
    have h32 : n.toNat.testBit 32 = true := by
      rw [← Nat.zero_add 32, ← Nat.testBit_div_two_pow, hm]
      decide
    have hp : 128 - r.prefixLen ≤ 32 := by
      by_contra hlt
      have := testBit_network r (i := 32) (by simp only [hn, IpAddr.width]; omega)
      simp [hn, IpAddr.bits, h32] at this
    have hdiv : b.toNat / 2 ^ 32 * 2 ^ 32 = n.toNat / 2 ^ 32 * 2 ^ 32 :=
      (div_two_pow_mul_eq_iff b.isLt n.isLt).mpr fun i hi hw => by
        simpa [hn, IpAddr.bits] using hs i (by simp only [IpAddr.width]; omega) hw
    rw [Nat.mul_left_inj (Nat.two_pow_pos 32).ne'] at hdiv
    rw [hdiv, hm]

/-- With no `/` in it, a signature is all address. -/
theorem splitSignature_of_not_mem {cs : List Char} (h : '/' ∉ cs) : splitSignature cs = (cs, none) := by
  have hne : ∀ c ∈ cs, (!decide (c = '/')) = true := fun c hc => by
    simp only [Bool.not_eq_eq_eq_not, Bool.not_true, decide_eq_false_iff_not]
    rintro rfl
    exact h hc
  simp [splitSignature, List.span_eq_takeWhile_dropWhile, List.takeWhile_eq_self_iff.mpr hne,
    List.dropWhile_eq_nil_iff.mpr hne]

theorem mem_of_mem_trimBlankChars {cs : List Char} {c : Char} (h : c ∈ Text.trimBlankChars cs) : c ∈ cs := by
  simp only [Text.trimBlankChars, List.mem_reverse] at h
  exact (List.dropWhile_sublist _).subset ((List.mem_reverse.mp ((List.dropWhile_sublist _).subset h)))

/-- A bare address, with no prefix, reads as the single-host range on the
address that a request from the same text comes from: a whole width of prefix
keeps every bit. -/
theorem parse_bare {s : String} (hs : '/' ∉ s.toList) {r : AddressRange} (h : parse s = .ok r) :
    r.prefixLen = r.network.width ∧ Source.read (some s) = .valid r.network := by
  have hcs : '/' ∉ Text.trimBlankChars s.toList := fun hm => hs (mem_of_mem_trimBlankChars hm)
  simp only [parse, splitSignature_of_not_mem hcs] at h
  split at h
  · cases h
  · rename_i a ha
    rw [make_of_le (Nat.le_refl _)] at h
    cases h
    refine ⟨by simp, ?_⟩
    simp [Source.read, IpAddr.parse, Text.trimBlank, ha]

/-- Containment is prefix agreement, with IPv4-mapped addresses taken as
IPv4: a range contains an address exactly when the address so taken is of its
family and agrees with its network on the first `prefix` bits; so it contains
its own network unless that is a mapped address; and the range a bare address
reads as is the single host a request from that text comes from, which it
lets through unless the address is mapped. -/
theorem containment_is_prefix_agreement (r : AddressRange) :
    (∀ a : IpAddr,
      (r.contains a = true ↔ r.network.sameFamily a.unmap = true ∧ a.unmap.SharePrefix r.prefixLen r.network)) ∧
    (r.contains r.network = true ↔ ¬ r.network.IsMapped) ∧
    ∀ s : String, '/' ∉ s.toList → parse s = .ok r →
      r.prefixLen = r.network.width ∧ Source.read (some s) = .valid r.network ∧
        (Source.matchesRange (Source.read (some s)) (some r) = true ↔ ¬ r.network.IsMapped) := by
  refine ⟨contains_iff r, contains_network_iff r, fun s hs h => ?_⟩
  obtain ⟨hp, hread⟩ := parse_bare hs h
  refine ⟨hp, hread, ?_⟩
  rw [hread, Source.matchesRange]
  exact contains_network_iff r

/-- The bare address `10.1.2.3` reads as a single-host range, which contains
the mapped `::ffff:10.1.2.3` and lets a request from `10.1.2.3` through. -/
theorem host_range_contains_mapped_self :
    parse "10.1.2.3" = .ok (mk (.v4 0x0A010203) 32) ∧
      (mk (.v4 0x0A010203) 32).contains (.v6 0xFFFF0A010203) = true ∧
      Source.matchesRange (Source.read (some "10.1.2.3")) (some (mk (.v4 0x0A010203) 32)) = true := by
  have hparse : parse "10.1.2.3" = .ok (mk (.v4 0x0A010203) 32) := by rfl
  have hunmap : IpAddr.unmap (.v6 0xFFFF0A010203) = .v4 0x0A010203 := by decide
  have hslash : '/' ∉ "10.1.2.3".toList := by
    rw [show "10.1.2.3".toList = ['1', '0', '.', '1', '.', '2', '.', '3'] from rfl]
    decide
  obtain ⟨hall, -, hbare⟩ := containment_is_prefix_agreement (mk (.v4 0x0A010203) 32)
  refine ⟨hparse, (hall _).mpr ?_, (hbare "10.1.2.3" hslash hparse).2.2.mpr (by decide)⟩
  rw [hunmap]
  exact ⟨rfl, IpAddr.SharePrefix.refl _ _⟩

/-- The bare mapped address `::ffff:1.2.3.4` reads as a range that misses that
very address, although the address is of the range's family and agrees with
its network on every bit. -/
theorem mapped_host_range_misses_itself :
    parse "::ffff:1.2.3.4" = .ok (mk (.v6 0xFFFF01020304) 128) ∧
      IpAddr.parse "::ffff:1.2.3.4" = some (.v6 0xFFFF01020304) ∧
      (IpAddr.v6 0xFFFF01020304).SharePrefix 128 (.v6 0xFFFF01020304) ∧
      (mk (.v6 0xFFFF01020304) 128).contains (.v6 0xFFFF01020304) = false :=
  ⟨by rfl, by decide, IpAddr.SharePrefix.refl _ _, by decide⟩

end AddressRange

end GeoAccess
