import GeoAccess.Address.Range
import GeoAccess.Proofs.AddressText
import Mathlib.Data.List.TakeDrop

/-!
# Signatures read back

A range is built by `AddressRange.make`, which masks an address to a prefix
no longer than its family's width (`AddressRange.make_of_le`); two ranges
with one network and one prefix are one range (`AddressRange.ext`), whatever
proofs they carry.

The canonical signature `network/prefix` of a range reads back as the range
(`parse_render`): it has no blank to trim, its first `/` is the one before the
prefix, the network reads back by `IpAddr.parse_render`, the prefix is a
decimal byte (`readUnsignedChars_toDigits`), and masking again changes
nothing. So reading a signature and writing it settles on one text for each
range (`signature_round_trip`).
-/

namespace GeoAccess

namespace AddressRange

theorem make_of_le {a : IpAddr} {p : Nat} (hp : p ≤ a.width) :
    make a p = .ok ⟨a.mask p, p, (IpAddr.width_mask a p).symm ▸ hp, IpAddr.mask_mask a p⟩ :=
  dif_neg (Nat.not_lt.mpr hp)

/-! ## The text of a signature -/

theorem render_toList (r : AddressRange) :
    r.render.toList = r.network.render.toList ++ '/' :: Nat.toDigits 10 r.prefixLen := by
  simp [render, String.toList_append]

/-- No character an address is written with is a blank or a `/`. -/
theorem addressChar_ne {c : Char} (hc : IpAddr.AddressChar c) : Text.isBlank c = false ∧ c ≠ '/' := by
  rcases hc with rfl | rfl | ⟨d, hd, rfl⟩
  · decide
  · decide
  · revert d
    decide

/-- A text that neither starts nor ends with a blank is its own trim. -/
theorem trimBlankChars_of_forall {cs : List Char} (h : ∀ c ∈ cs, Text.isBlank c = false) :
    Text.trimBlankChars cs = cs := by
  have hdrop : ∀ ds : List Char, (∀ c ∈ ds, Text.isBlank c = false) → ds.dropWhile Text.isBlank = ds := by
    intro ds hds
    cases ds with
    | nil => rfl
    | cons d ds => exact List.dropWhile_cons_of_neg (by simp [hds d List.mem_cons_self])
  rw [Text.trimBlankChars, hdrop cs h, hdrop cs.reverse (fun c hc => h c (List.mem_reverse.mp hc)),
    List.reverse_reverse]

/-- A signature splits at the `/` after its address. -/
theorem splitSignature_append {addr pre : List Char} (h : '/' ∉ addr) :
    splitSignature (addr ++ '/' :: pre) = (addr, some pre) := by
  have hne : ∀ c ∈ addr, (!decide (c = '/')) = true := fun c hc => by
    simp only [Bool.not_eq_eq_eq_not, Bool.not_true, decide_eq_false_iff_not]
    rintro rfl
    exact h hc
  simp [splitSignature, List.span_eq_takeWhile_dropWhile, List.takeWhile_append_of_pos hne,
    List.dropWhile_append_of_pos hne]

/-- Decimal digits are read one by one while the value stays within the
bound. -/
theorem readDigits_digits {bound : Nat} {ds : List Char} (hds : ∀ c ∈ ds, c.isDigit = true) (acc : Nat)
    (hb : Nat.ofDigitChars 10 ds acc ≤ bound) :
    Numeral.readDigits bound acc ds = .ok (Nat.ofDigitChars 10 ds acc) := by
  induction ds generalizing acc with
  | nil => rfl
  | cons c ds ih =>
    have hc := hds c List.mem_cons_self
    rw [Nat.ofDigitChars_cons] at hb ⊢
    have hle : acc * 10 + Numeral.digitValue c ≤ bound := by
      have hmono := @Nat.ofDigitChars_eq_ofDigitChars_zero ds (10 * acc + (c.toNat - '0'.toNat))
      have hpow := Nat.pow_pos (n := ds.length) (by decide : 0 < 10)
      have hgrow := Nat.le_mul_of_pos_left (10 * acc + (c.toNat - '0'.toNat)) hpow
      simp only [Numeral.digitValue]
      omega
    rw [Numeral.readDigits, if_pos hc, if_neg (Nat.not_lt.mpr hle),
      show acc * 10 + Numeral.digitValue c = 10 * acc + (c.toNat - '0'.toNat) by
        simp only [Numeral.digitValue]; omega]
    exact ih (fun c hc => hds c (List.mem_cons_of_mem _ hc)) _ hb

/-- A prefix written in decimal reads back. -/
theorem readUnsignedChars_toDigits {p : Nat} (hp : p ≤ Numeral.u8Max) :
    Numeral.readUnsignedChars Numeral.u8Max (Nat.toDigits 10 p) = .ok p := by
  have hdigits : ∀ c ∈ Nat.toDigits 10 p, c.isDigit = true :=
    fun c hc => Nat.isDigit_of_mem_toDigits (by decide) (by decide) hc
  have hread : Numeral.readDigits Numeral.u8Max 0 (Nat.toDigits 10 p) = .ok p := by
    rw [readDigits_digits hdigits 0 (by rw [Nat.ofDigitChars_ten_toDigits]; exact hp),
      Nat.ofDigitChars_ten_toDigits]
  obtain ⟨c, cs, hcs⟩ := List.exists_cons_of_ne_nil (Nat.toDigits_ne_nil (n := p) (b := 10))
  have hc : c.isDigit = true := hdigits c (hcs ▸ List.mem_cons_self)
  have hplus : c ≠ '+' := fun h => by rw [h] at hc; cases hc
  have hminus : c ≠ '-' := fun h => by rw [h] at hc; cases hc
  rw [hcs] at hread ⊢
  unfold Numeral.readUnsignedChars
  split
  · rename_i h
    cases h
  · rename_i h
    exact absurd (List.cons.inj h).1 hplus
  · rename_i h
    exact absurd (List.cons.inj h).1 hminus
  · rename_i rest h
    exact absurd (List.cons.inj h).1 hplus
  · exact hread

/-! ## Reading back -/

/-- The canonical signature of a range reads back as the range. -/
theorem parse_render (r : AddressRange) : parse r.render = .ok r := by
  have haddr : ∀ c ∈ r.network.render.toList, Text.isBlank c = false ∧ c ≠ '/' :=
    fun c hc => addressChar_ne (IpAddr.addressChar_of_mem_render hc)
  have hlen10 : ∀ c ∈ Nat.toDigits 10 r.prefixLen, Text.isBlank c = false ∧ c ≠ '/' :=
    fun c hc => addressChar_ne (IpAddr.addressChar_of_mem_toDigits (Or.inl rfl) hc)
  have htrim : Text.trimBlankChars r.render.toList = r.render.toList := by
    refine trimBlankChars_of_forall fun c hc => ?_
    rw [render_toList, List.mem_append, List.mem_cons] at hc
    rcases hc with hc | rfl | hc
    · exact (haddr c hc).1
    · decide
    · exact (hlen10 c hc).1
  have hsplit : splitSignature r.render.toList = (r.network.render.toList, some (Nat.toDigits 10 r.prefixLen)) := by
    rw [render_toList]
    exact splitSignature_append fun h => (haddr '/' h).2 rfl
  have hwidth : r.prefixLen ≤ Numeral.u8Max := by
    have hw : r.network.width ≤ 128 := by cases r.network <;> simp [IpAddr.width]
    have := r.prefixLen_le
    simp only [Numeral.u8Max]
    omega
  have hmake : make r.network r.prefixLen = .ok r := by
    rw [make_of_le r.prefixLen_le]
    exact congrArg Except.ok (AddressRange.ext r.masked rfl)
  simp only [parse, htrim, hsplit, IpAddr.parseChars_render, readUnsignedChars_toDigits hwidth, hmake]

/-- Signatures and ranges: the canonical signature of every range reads back
as the range, so two ranges with one signature are one range; and every
signature that reads reads as a range whose canonical signature reads back as
the same range. -/
theorem signature_round_trip :
    (∀ r : AddressRange, parse r.render = .ok r) ∧
    (∀ r r' : AddressRange, r.render = r'.render → r = r') ∧
    (∀ (s : String) (r : AddressRange), parse s = .ok r → parse r.render = .ok r) := by
  refine ⟨parse_render, fun r r' heq => ?_, fun _ r _ => parse_render r⟩
  have h := parse_render r
  rw [heq, parse_render r'] at h
  exact (Except.ok.inj h).symm

/-- The documentation block `2001:db8::/32` reads back from its signature. -/
theorem documentation_block_reads_back :
    parse (render (mk (.v6 0x20010db8000000000000000000000000) 32)) =
      .ok (mk (.v6 0x20010db8000000000000000000000000) 32) :=
  signature_round_trip.1 _

end AddressRange

end GeoAccess
