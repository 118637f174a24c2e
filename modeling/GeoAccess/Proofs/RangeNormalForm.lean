import GeoAccess.Proofs.Containment

/-!
# Ranges in normal form

Every range is well formed by construction: its prefix is at most the width
of its family, and its network is masked to that prefix. `AddressRange.make`
is the one place that builds a range from an address and a prefix, and the
text and document readers go through it.

The mask is computed in the family's word of 32 or 128 bits: the address
and-ed with all ones shifted left by `width - p`. Computed with the
subtraction and the shift checked (`wordMask`), it fails exactly when the
prefix passes the width (`IpAddr.maskWord_eq_none_iff`), and within the width
it gives `IpAddr.mask` (`IpAddr.maskWord_of_le`). A range is built exactly
when that computation succeeds (`AddressRange.make_eq_ok_iff_maskWord`), and
a range masks only addresses of its own family, within its width
(`AddressRange.maskWord_of_contains`): the mask never overflows.

Two ranges built with one prefix are one range exactly when their addresses
are of one family and share the prefix (`AddressRange.make_eq_make_iff`).
Within the width masking decides it (`IpAddr.mask_eq_mask_iff`); past it both
are refused, with texts that name the address and the width and so differ
unless the addresses do (`AddressRange.refusal_eq_iff`).

* `range_normal_form`: the three together.
-/

namespace GeoAccess

/-! ## Masks in fixed-width words -/

/-- Subtraction of unsigned words: `none` where it would go below zero. -/
def checkedSub (x y : Nat) : Option Nat :=
  if y ≤ x then some (x - y) else none

/-- A left shift of a `w`-bit word: `none` where the amount is not below the
width. -/
def checkedShl {w : Nat} (x : BitVec w) (s : Nat) : Option (BitVec w) :=
  if s < w then some (x <<< s) else none

/-- The first `p` bits of a `w`-bit word, the others cleared, as the word
computes them with its subtraction and its shift checked: zero for an empty
prefix, else the word and-ed with all ones shifted left by `w - p`. -/
def wordMask {w : Nat} (b : BitVec w) (p : Nat) : Option (BitVec w) :=
  if p = 0 then some 0
  else do
    let s ← checkedSub w p
    let ones ← checkedShl (BitVec.allOnes w) s
    return b &&& ones

theorem checkedSub_of_le {x y : Nat} (h : y ≤ x) : checkedSub x y = some (x - y) :=
  if_pos h

theorem checkedSub_of_lt {x y : Nat} (h : x < y) : checkedSub x y = none :=
  if_neg (Nat.not_le.mpr h)

theorem checkedShl_of_lt {w : Nat} (x : BitVec w) {s : Nat} (h : s < w) :
    checkedShl x s = some (x <<< s) :=
  if_pos h

/-- Within the width neither the subtraction nor the shift fails: a prefix of
at least one bit shifts by less than the width. -/
theorem wordMask_of_le {w : Nat} (b : BitVec w) {p : Nat} (hp : p ≤ w) :
    wordMask b p = some (if p = 0 then 0 else b &&& BitVec.allOnes w <<< (w - p)) := by
  by_cases h0 : p = 0
  · simp [wordMask, h0]
  · simp only [wordMask, if_neg h0, checkedSub_of_le hp, checkedShl_of_lt _ (by omega : w - p < w),
      Option.bind_eq_bind, Option.bind_some, Option.pure_def]

example : wordMask (0x0A000007 : BitVec 32) 8 = some 0x0A000000 := by decide

/-- Past the width the subtraction goes below zero. -/
theorem wordMask_eq_none_iff {w : Nat} (b : BitVec w) (p : Nat) : wordMask b p = none ↔ w < p := by
  by_cases hp : p ≤ w
  · simp [wordMask_of_le b hp, Nat.not_lt.mpr hp]
  · have h0 : p ≠ 0 := by omega
    simp [wordMask, h0, checkedSub_of_lt (Nat.lt_of_not_le hp), Nat.lt_of_not_le hp]

namespace IpAddr

/-- The mask computed in the word of the address's family. -/
def maskWord : IpAddr → Nat → Option IpAddr
  | .v4 b, p => (wordMask b p).map .v4
  | .v6 b, p => (wordMask b p).map .v6

theorem maskWord_of_le (a : IpAddr) {p : Nat} (hp : p ≤ a.width) : a.maskWord p = some (a.mask p) := by
  cases a <;> simp only [width] at hp <;> simp only [maskWord, mask, wordMask_of_le _ hp, Option.map_some]

theorem maskWord_eq_none_iff (a : IpAddr) (p : Nat) : a.maskWord p = none ↔ a.width < p := by
  cases a <;> simp only [maskWord, width, Option.map_eq_none_iff, wordMask_eq_none_iff]

theorem sharePrefix_of_width_le {a b : IpAddr} {p : Nat} (hp : a.width ≤ p) :
    a.SharePrefix p b ↔ a.SharePrefix a.width b := by
  simp only [SharePrefix, Nat.sub_eq_zero_of_le hp, Nat.sub_self]

/-- A prefix as long as the width, or longer, is shared only by the address
itself. -/
theorem eq_iff_sharePrefix {a b : IpAddr} (hf : a.sameFamily b = true) {p : Nat} (hp : a.width ≤ p) :
    a = b ↔ a.SharePrefix p b := by
  rw [sharePrefix_of_width_le hp, ← mask_eq_mask_iff hf, mask_width, width_eq_of_sameFamily hf, mask_width]

theorem render_inj {a b : IpAddr} (h : a.render = b.render) : a = b := by
  have hread := parseChars_render a
  rw [h, parseChars_render b] at hread
  exact (Option.some.inj hread).symm

end IpAddr

/-! ## Building a range -/

namespace AddressRange

theorem make_of_lt {a : IpAddr} {p : Nat} (hp : a.width < p) :
    make a p = .error (.invalidAddressRange
      (a.render ++ "/" ++ toString p ++ ": prefix exceeds " ++ toString a.width)) :=
  dif_pos hp

theorem make_eq_ok_iff {a : IpAddr} {p : Nat} {r : AddressRange} :
    make a p = .ok r ↔ p ≤ a.width ∧ r.network = a.mask p ∧ r.prefixLen = p := by
  by_cases hp : p ≤ a.width
  · rw [make_of_le hp, Except.ok.injEq, AddressRange.ext_iff]
    exact ⟨fun h => ⟨hp, h.1.symm, h.2.symm⟩, fun h => ⟨h.2.1.symm, h.2.2.symm⟩⟩
  · rw [make_of_lt (Nat.lt_of_not_le hp)]
    simp [hp]

/-- A range is built exactly when the word computation of its mask succeeds,
and its network is what that computation gives. -/
theorem make_eq_ok_iff_maskWord {a : IpAddr} {p : Nat} {r : AddressRange} :
    make a p = .ok r ↔ ∃ n, a.maskWord p = some n ∧ r.network = n ∧ r.prefixLen = p := by
  rw [make_eq_ok_iff]
  constructor
  · rintro ⟨hp, hn, hl⟩
    exact ⟨_, a.maskWord_of_le hp, hn, hl⟩
  · rintro ⟨n, hn, hnet, hl⟩
    have hp : p ≤ a.width := Nat.not_lt.mp fun hlt => by
      rw [(a.maskWord_eq_none_iff p).mpr hlt] at hn
      cases hn
    rw [a.maskWord_of_le hp, Option.some_inj] at hn
    exact ⟨hp, hnet.trans hn.symm, hl⟩

/-- A range masks an address only when it is of the range's family, and then
within the family's width. -/
theorem maskWord_of_contains (r : AddressRange) (a : IpAddr) (hf : r.network.sameFamily a.unmap = true) :
    a.unmap.maskWord r.prefixLen = some (a.unmap.mask r.prefixLen) :=
  a.unmap.maskWord_of_le (IpAddr.width_eq_of_sameFamily hf ▸ r.prefixLen_le)

theorem contains_iff_maskWord (r : AddressRange) (a : IpAddr) :
    r.contains a = true ↔
      r.network.sameFamily a.unmap = true ∧ a.unmap.maskWord r.prefixLen = some r.network := by
  rw [contains_eq_true_iff_mask]
  refine and_congr_right fun hf => ?_
  rw [maskWord_of_contains r a hf, Option.some_inj]

/-- The refusals of too long a prefix name the address and the width, so two
of them are one text only for one address: with one width the texts differ
where the addresses' texts do, and the two widths end in different digits. -/
theorem refusal_eq_iff (a b : IpAddr) (p : Nat) :
    a.render ++ "/" ++ toString p ++ ": prefix exceeds " ++ toString a.width =
      b.render ++ "/" ++ toString p ++ ": prefix exceeds " ++ toString b.width ↔ a = b := by
  refine ⟨fun h => ?_, fun h => h ▸ rfl⟩
  by_cases hw : a.width = b.width
  · rw [hw] at h
    have hl := congrArg String.toList h
    simp only [String.toList_append, List.append_cancel_right_eq] at hl
    exact IpAddr.render_inj (String.toList_inj.mp hl)
  · have hlast : ∀ (s : String) (c : IpAddr),
        (s ++ toString c.width).toList.getLast? = (toString c.width).toList.getLast? := fun s c => by
      rw [String.toList_append,
        List.getLast?_append_of_ne_nil _ (by cases c <;> simp only [IpAddr.width] <;> decide)]
    have hl := congrArg (fun s : String => s.toList.getLast?) h
    simp only [hlast] at hl
    cases a <;> cases b
    · exact absurd rfl hw
    · exact absurd hl (by simp only [IpAddr.width]; decide)
    · exact absurd hl (by simp only [IpAddr.width]; decide)
    · exact absurd rfl hw

/-- Two ranges built with one prefix are one exactly when their addresses are
of one family and share the prefix. Within both widths the masks decide it;
within one width only, the families differ; past both, the refusals name the
addresses. -/
theorem make_eq_make_iff (a b : IpAddr) (p : Nat) :
    make a p = make b p ↔ a.sameFamily b = true ∧ a.SharePrefix p b := by
  by_cases hpa : p ≤ a.width <;> by_cases hpb : p ≤ b.width
  · rw [make_of_le hpa, make_of_le hpb, Except.ok.injEq, AddressRange.ext_iff]
    simp only [and_true]
    by_cases hf : a.sameFamily b = true
    · rw [IpAddr.mask_eq_mask_iff hf, and_iff_right hf]
    · refine iff_of_false (fun h => hf ?_) (fun h => hf h.1)
      rw [← IpAddr.sameFamily_mask a b p p, h, IpAddr.sameFamily_self]
  · rw [make_of_le hpa, make_of_lt (Nat.lt_of_not_le hpb)]
    exact iff_of_false (by simp) fun h => hpb (IpAddr.width_eq_of_sameFamily h.1 ▸ hpa)
  · rw [make_of_lt (Nat.lt_of_not_le hpa), make_of_le hpb]
    exact iff_of_false (by simp) fun h => hpa ((IpAddr.width_eq_of_sameFamily h.1).symm ▸ hpb)
  · rw [make_of_lt (Nat.lt_of_not_le hpa), make_of_lt (Nat.lt_of_not_le hpb), Except.error.injEq,
      AuthzError.invalidAddressRange.injEq, refusal_eq_iff]
    constructor
    · rintro rfl
      exact ⟨IpAddr.sameFamily_self a, IpAddr.SharePrefix.refl p a⟩
    · rintro ⟨hf, hs⟩
      exact (IpAddr.eq_iff_sharePrefix hf (by omega)).mpr hs

end AddressRange

/-- Ranges are kept in normal form. Every range, whether built from an
address and a prefix, read from a signature or read from a document, has a
prefix at most its family's width and a network masked to it. The mask,
computed in the family's word with checked subtraction and shift, fails
exactly past the width; a range is built exactly when it succeeds, and a range
computes it only for an address of its own family, so it never fails there.
Two ranges built with one prefix are one exactly when the addresses are of one
family and agree on their first `p` bits. -/
theorem range_normal_form :
    (∀ r : AddressRange, r.prefixLen ≤ r.network.width ∧ r.network.mask r.prefixLen = r.network) ∧
    (∀ (a : IpAddr) (p : Nat), a.maskWord p = none ↔ a.width < p) ∧
    (∀ (a : IpAddr) (p : Nat) (r : AddressRange),
      AddressRange.make a p = .ok r ↔ ∃ n, a.maskWord p = some n ∧ r.network = n ∧ r.prefixLen = p) ∧
    (∀ (r : AddressRange) (a : IpAddr),
      (r.network.sameFamily a.unmap = true →
        a.unmap.maskWord r.prefixLen = some (a.unmap.mask r.prefixLen)) ∧
      (r.contains a = true ↔
        r.network.sameFamily a.unmap = true ∧ a.unmap.maskWord r.prefixLen = some r.network)) ∧
    (∀ (a b : IpAddr) (p : Nat),
      AddressRange.make a p = AddressRange.make b p ↔ a.sameFamily b = true ∧ a.SharePrefix p b) :=
  ⟨fun r => ⟨r.prefixLen_le, r.masked⟩,
    IpAddr.maskWord_eq_none_iff,
    fun _ _ _ => AddressRange.make_eq_ok_iff_maskWord,
    fun r a => ⟨AddressRange.maskWord_of_contains r a, AddressRange.contains_iff_maskWord r a⟩,
    AddressRange.make_eq_make_iff⟩

/-- `10.0.0.7/8` and `10.0.0.0/8` are one range: the word computation clears
the host bits, and the two addresses share their first eight bits. -/
theorem host_bits_cleared :
    AddressRange.make (.v4 0x0A000007) 8 = .ok (AddressRange.mk (.v4 0x0A000000) 8) ∧
      (IpAddr.v4 0x0A000007).maskWord 8 = some (.v4 0x0A000000) ∧
      (IpAddr.v4 0x0A000007).SharePrefix 8 (.v4 0x0A000000) := by
  have hmake : AddressRange.make (.v4 0x0A000007) 8 = .ok (AddressRange.mk (.v4 0x0A000000) 8) := by rfl
  obtain ⟨-, -, hbuilt, -, hsame⟩ := range_normal_form
  obtain ⟨n, hn, hnet, -⟩ := (hbuilt _ 8 _).mp hmake
  rw [← hnet] at hn
  exact ⟨hmake, hn, ((hsame _ _ 8).mp (hmake.trans rfl)).2⟩

end GeoAccess
