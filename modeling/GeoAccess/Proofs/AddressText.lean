import GeoAccess.Address.Ip
import Mathlib.Data.List.Induction

/-!
# Reading back the text of an address

Every address reads back from the text it is written as
(`parse_render`).

The argument follows the writer:

* numbers are written by `Nat.toDigits`, and reading such digits up to a
  character that is no digit gives the number back (`readNumber_toDigits`);
* the dotted form reads back octet by octet (`readV4_dotted`);
* a run of colon-separated groups reads back group by group, up to a `::` or
  the end of the text (`readGroups_groupsChars`), so the full form and the
  form with its zero run compressed both read back (`readV6_groupsChars`,
  `readV6_compressed`); the compressed run is made of zero groups
  (`zeroRun_zeros`);
* a text with no `.` is no IPv4 address (`readV4_of_no_dot`), so an IPv6 text
  is never taken for one.
-/

namespace GeoAccess.IpAddr

/-! ## Digits -/

/-- The radixes addresses are written in. -/
def Radix (radix : Nat) : Prop := radix = 10 ∨ radix = 16

theorem Radix.one_lt {radix : Nat} (hr : Radix radix) : 1 < radix := by
  rcases hr with rfl | rfl <;> decide

/-- A digit is read as the value it was written for. -/
theorem digitIn_digitChar {radix d : Nat} (hr : Radix radix) (hd : d < radix) :
    digitIn radix (Nat.digitChar d) = some d := by
  rcases hr with rfl | rfl
  · revert d
    decide
  · revert d
    decide

/-- The characters `Nat.toDigits` writes are digits. -/
theorem mem_toDigits {radix n : Nat} {c : Char} (hr : 1 < radix) (hc : c ∈ Nat.toDigits radix n) :
    ∃ d < radix, c = Nat.digitChar d := by
  induction n using Nat.base_induction radix hr with
  | single m hm =>
    rw [Nat.toDigits_of_lt_base hm, List.mem_singleton] at hc
    exact ⟨m, hm, hc⟩
  | digit m k hk hm ih =>
    rw [← Nat.toDigits_append_toDigits hr hm hk, Nat.toDigits_of_lt_base hk] at hc
    rcases List.mem_append.mp hc with hc | hc
    · exact ih hc
    · exact ⟨k, hk, List.mem_singleton.mp hc⟩

theorem digitIn_of_mem_toDigits {radix n : Nat} {c : Char} (hr : Radix radix)
    (hc : c ∈ Nat.toDigits radix n) : ∃ d, digitIn radix c = some d := by
  obtain ⟨d, hd, rfl⟩ := mem_toDigits hr.one_lt hc
  exact ⟨d, digitIn_digitChar hr hd⟩

/-- No hexadecimal digit is a `.`, a `:` or a `/`. -/
theorem digitChar_ne {d : Nat} (hd : d < 16) :
    Nat.digitChar d ≠ '.' ∧ Nat.digitChar d ≠ ':' ∧ Nat.digitChar d ≠ '/' := by
  revert d
  decide

/-- The value of digits read onto `acc`. -/
def digitsValue (radix : Nat) (acc : Nat) (cs : List Char) : Nat :=
  cs.foldl (fun a c => a * radix + (digitIn radix c).getD 0) acc

theorem le_digitsValue {radix : Nat} (hr : 0 < radix) (acc : Nat) (cs : List Char) :
    acc ≤ digitsValue radix acc cs := by
  induction cs generalizing acc with
  | nil => exact Nat.le_refl acc
  | cons c cs ih =>
    have hstep : acc ≤ acc * radix + (digitIn radix c).getD 0 :=
      Nat.le_trans (Nat.le_mul_of_pos_right acc hr) (Nat.le_add_right _ _)
    exact Nat.le_trans hstep (ih _)

theorem digitsValue_append (radix acc : Nat) (xs ys : List Char) :
    digitsValue radix acc (xs ++ ys) = digitsValue radix (digitsValue radix acc xs) ys :=
  List.foldl_append

/-- The digits of a number are worth the number. -/
theorem digitsValue_toDigits {radix : Nat} (hr : Radix radix) (n : Nat) :
    digitsValue radix 0 (Nat.toDigits radix n) = n := by
  induction n using Nat.base_induction radix hr.one_lt with
  | single m hm =>
    simp [digitsValue, Nat.toDigits_of_lt_base hm, digitIn_digitChar hr hm]
  | digit m k hk hm ih =>
    rw [← Nat.toDigits_append_toDigits hr.one_lt hm hk, Nat.toDigits_of_lt_base hk, digitsValue_append, ih]
    simp [digitsValue, digitIn_digitChar hr hk, Nat.mul_comm]

/-- Only zero is written with a leading zero: a longer numeral leads with the
digits of its high part, which is not zero. -/
theorem eq_zero_of_toDigits_head? {radix n : Nat} (hr : Radix radix)
    (h : (Nat.toDigits radix n).head? = some '0') : n = 0 := by
  induction n using Nat.base_induction radix hr.one_lt with
  | single m hm =>
    rw [Nat.toDigits_of_lt_base hm, List.head?_cons, Option.some.injEq] at h
    have hm16 : m < 16 := by rcases hr with rfl | rfl <;> omega
    have key : ∀ m < 16, Nat.digitChar m = '0' → m = 0 := by decide
    exact key m hm16 h
  | digit m k hk hm ih =>
    obtain ⟨c, cs, hcs⟩ := List.exists_cons_of_ne_nil (Nat.toDigits_ne_nil (n := m) (b := radix))
    rw [← Nat.toDigits_append_toDigits hr.one_lt hm hk, hcs, List.cons_append, List.head?_cons] at h
    rw [hcs, List.head?_cons] at ih
    exact absurd (ih h) (Nat.ne_of_gt hm)

section Reading

variable {radix bound maxDigits : Nat}

/-- Digits are read one by one while the value and the count stay within
their limits. Each value read on the way is at most the final one, so a bound
on the final value bounds them all. -/
theorem readDigits_append (hr : 0 < radix) {cs : List Char} (hcs : ∀ c ∈ cs, ∃ d, digitIn radix c = some d)
    (rest : List Char) (acc count : Nat) (hb : digitsValue radix acc cs ≤ bound)
    (hm : count + cs.length ≤ maxDigits) :
    readDigits radix bound maxDigits acc count (cs ++ rest) =
      readDigits radix bound maxDigits (digitsValue radix acc cs) (count + cs.length) rest := by
  induction cs generalizing acc count with
  | nil => rfl
  | cons c cs ih =>
    obtain ⟨d, hd⟩ := hcs c List.mem_cons_self
    have hle : acc * radix + d ≤ bound := by
      have := le_digitsValue hr (acc * radix + d) cs
      simp only [digitsValue, List.foldl_cons, hd, Option.getD_some] at hb
      exact Nat.le_trans this hb
    have hcount : ¬count + 1 > maxDigits := by
      simp only [List.length_cons] at hm
      omega
    rw [List.cons_append, readDigits, hd]
    simp only [Nat.not_lt.mpr hle, hcount, if_false]
    rw [ih (fun c hc => hcs c (List.mem_cons_of_mem _ hc)) _ _ (by simpa [digitsValue, hd] using hb)
      (by simp only [List.length_cons] at hm; omega)]
    simp [digitsValue, hd, Nat.add_assoc, Nat.add_comm 1]

/-- Reading stops at the end or at a character that is no digit. -/
theorem readDigits_stop {rest : List Char} (hrest : ∀ c ∈ rest.head?, digitIn radix c = none)
    (acc count : Nat) : readDigits radix bound maxDigits acc count rest = some (acc, count, rest) := by
  cases rest with
  | nil => rfl
  | cons c cs =>
    have hc : digitIn radix c = none := hrest c rfl
    simp [readDigits, hc]

/-- What is left after reading digits is a suffix of the text. -/
theorem readDigits_suffix {cs rest : List Char} {acc count v k : Nat}
    (h : readDigits radix bound maxDigits acc count cs = some (v, k, rest)) : rest <:+ cs := by
  induction cs generalizing acc count with
  | nil =>
    simp only [readDigits, Option.some.injEq, Prod.mk.injEq] at h
    obtain ⟨-, -, rfl⟩ := h
    exact List.suffix_refl _
  | cons c cs ih =>
    simp only [readDigits] at h
    split at h
    · simp only [Option.some.injEq, Prod.mk.injEq] at h
      obtain ⟨-, -, rfl⟩ := h
      exact List.suffix_refl _
    · split at h
      · cases h
      · split at h
        · cases h
        · exact (ih h).trans (List.suffix_cons c cs)

/-- A value read is within its bound. -/
theorem readDigits_le {cs rest : List Char} {acc count v k : Nat} (hacc : acc ≤ bound)
    (h : readDigits radix bound maxDigits acc count cs = some (v, k, rest)) : v ≤ bound := by
  induction cs generalizing acc count with
  | nil =>
    simp only [readDigits, Option.some.injEq, Prod.mk.injEq] at h
    rw [← h.1]
    exact hacc
  | cons c cs ih =>
    simp only [readDigits] at h
    split at h
    · simp only [Option.some.injEq, Prod.mk.injEq] at h
      rw [← h.1]
      exact hacc
    · split at h
      · cases h
      · split at h
        · cases h
        · exact ih (by omega) h

/-- A number written by `Nat.toDigits` reads back, up to a character that is
no digit, whatever the rule on a leading zero: a numeral that leads with zero
is zero itself, one digit long. -/
theorem readNumber_toDigits (hr : Radix radix) {n : Nat} {rest : List Char} (hn : n ≤ bound)
    (hlen : (Nat.toDigits radix n).length ≤ maxDigits)
    (hrest : ∀ c ∈ rest.head?, digitIn radix c = none) (zeroLead : Bool) :
    readNumber radix bound maxDigits zeroLead (Nat.toDigits radix n ++ rest) = some (n, rest) := by
  have hpos : 0 < radix := Nat.lt_trans Nat.zero_lt_one hr.one_lt
  have hread : readDigits radix bound maxDigits 0 0 (Nat.toDigits radix n ++ rest) =
      some (n, (Nat.toDigits radix n).length, rest) := by
    rw [readDigits_append hpos (fun c hc => digitIn_of_mem_toDigits hr hc) rest 0 0
      (by rw [digitsValue_toDigits hr]; exact hn) (by omega), digitsValue_toDigits hr, Nat.zero_add]
    exact readDigits_stop hrest _ _
  have hne : (Nat.toDigits radix n).length ≠ 0 := Nat.ne_of_gt Nat.length_toDigits_pos
  have hlead : (Nat.toDigits radix n ++ rest).head? = some '0' → (Nat.toDigits radix n).length = 1 := by
    intro hz
    rw [List.head?_append, Option.or_of_isSome (by simp)] at hz
    rw [eq_zero_of_toDigits_head? hr hz, Nat.toDigits_zero]
    rfl
  simp only [readNumber, hread, hne, if_false]
  rw [if_neg]
  intro hcond
  simp only [Bool.and_eq_true, decide_eq_true_eq] at hcond
  have hone := hlead hcond.1.2
  omega

/-- A text that does not start with a digit holds no number. -/
theorem readNumber_eq_none {cs : List Char} (hcs : ∀ c ∈ cs.head?, digitIn radix c = none)
    (zeroLead : Bool) : readNumber radix bound maxDigits zeroLead cs = none := by
  simp [readNumber, readDigits_stop hcs]

/-- A number read is within its bound, and the text left is a suffix. -/
theorem readNumber_some {cs rest : List Char} {zeroLead : Bool} {v : Nat}
    (h : readNumber radix bound maxDigits zeroLead cs = some (v, rest)) : v ≤ bound ∧ rest <:+ cs := by
  simp only [readNumber] at h
  split at h
  · cases h
  · rename_i v' count rest' hread
    split at h
    · cases h
    · split at h
      · cases h
      · simp only [Option.some.injEq, Prod.mk.injEq] at h
        obtain ⟨rfl, rfl⟩ := h
        exact ⟨readDigits_le (Nat.zero_le _) hread, readDigits_suffix hread⟩

end Reading

/-! ## The dotted form -/

theorem readOctet_toDigits {n : Nat} {rest : List Char} (hn : n ≤ 255)
    (hrest : ∀ c ∈ rest.head?, digitIn 10 c = none) :
    readOctet (Nat.toDigits 10 n ++ rest) = some (n, rest) :=
  readNumber_toDigits (Or.inl rfl) hn
    ((Nat.length_toDigits_le_iff (by decide) (by decide)).mpr (by show n < 1000; omega)) hrest false

/-- An octet read up to the dot after it. -/
theorem readOctet_dot {n : Nat} (hn : n ≤ 255) (rest : List Char) :
    readOctet (Nat.toDigits 10 n ++ '.' :: rest) = some (n, '.' :: rest) :=
  readOctet_toDigits hn (by simp [digitIn])

theorem dotted_toList (b : Nat) : (dotted b).toList =
    Nat.toDigits 10 (b / 0x1000000 % 256) ++ '.' :: (Nat.toDigits 10 (b / 0x10000 % 256) ++ '.' ::
      (Nat.toDigits 10 (b / 0x100 % 256) ++ '.' :: Nat.toDigits 10 (b % 256))) := by
  simp [dotted, String.toList_append]

/-- The dotted form of 32 bits reads back, up to a character that is no digit. -/
theorem readV4_dotted {b : Nat} (hb : b < 0x100000000) {rest : List Char}
    (hrest : ∀ c ∈ rest.head?, digitIn 10 c = none) :
    readV4 ((dotted b).toList ++ rest) = some (b, rest) := by
  have h1 : b / 0x1000000 % 256 ≤ 255 := by omega
  have h2 : b / 0x10000 % 256 ≤ 255 := by omega
  have h3 : b / 0x100 % 256 ≤ 255 := by omega
  have h4 : b % 256 ≤ 255 := by omega
  rw [dotted_toList]
  simp only [List.append_assoc, List.cons_append, readV4, readOctet_dot h1, readOctet_dot h2,
    readOctet_dot h3, readOctet_toDigits h4 hrest, Option.bind_eq_bind, Option.bind_some, expect,
    ↓reduceIte, Option.pure_def, Option.some.injEq, Prod.mk.injEq, and_true]
  omega


theorem expect_some {c : Char} {cs rest : List Char} (h : expect c cs = some rest) : cs = c :: rest := by
  cases cs with
  | nil => cases h
  | cons d ds =>
    simp only [expect] at h
    split at h
    · rename_i hd
      rw [hd, Option.some.inj h]
    · cases h

/-- A text without a dot is no IPv4 address. -/
theorem readV4_of_no_dot {cs : List Char} (h : '.' ∉ cs) : readV4 cs = none := by
  cases ho : readOctet cs with
  | none => simp [readV4, ho]
  | some ar =>
    obtain ⟨a, r⟩ := ar
    have hr : expect '.' r = none := by
      cases r with
      | nil => rfl
      | cons c cs' =>
        have hc : c ≠ '.' := fun hc => h ((readNumber_some ho).2.subset (hc ▸ List.mem_cons_self))
        simp [expect, hc]
    simp [readV4, ho, hr]

/-- A text that starts with no decimal digit is no IPv4 address. -/
theorem readV4_eq_none {cs : List Char} (hcs : ∀ c ∈ cs.head?, digitIn 10 c = none) : readV4 cs = none := by
  simp [readV4, readOctet, readNumber_eq_none hcs]

/-! ## Groups -/

/-- The text of groups that follow a first one: each after a colon. -/
def colonGroups (gs : List Nat) : List Char :=
  gs.flatMap fun g => ':' :: Nat.toDigits 16 g

/-- The text of groups joined by colons. -/
def groupsChars : List Nat → List Char
  | [] => []
  | g :: gs => Nat.toDigits 16 g ++ colonGroups gs

theorem intercalate_colon (f : Nat → List Char) (g : Nat) (gs : List Nat) :
    [':'].intercalate ((g :: gs).map f) = f g ++ gs.flatMap fun g => ':' :: f g := by
  induction gs generalizing g with
  | nil => simp
  | cons g' gs ih =>
    rw [List.map_cons, List.map_cons, List.intercalate_cons_cons, ← List.map_cons, ih]
    simp

theorem joinGroups_toList (gs : List Nat) : (joinGroups gs).toList = groupsChars gs := by
  cases gs with
  | nil => rfl
  | cons g gs =>
    have hsep : ":".toList = [':'] := rfl
    have hhex : String.toList ∘ hex = Nat.toDigits 16 := funext fun _ => String.toList_ofList
    rw [joinGroups, String.toList_intercalate, hsep, List.map_map, hhex]
    exact intercalate_colon _ g gs

/-- The characters of groups are hexadecimal digits and colons. -/
theorem mem_groupsChars {gs : List Nat} {c : Char} (hc : c ∈ groupsChars gs) :
    c = ':' ∨ ∃ d < 16, c = Nat.digitChar d := by
  have hcolon : ∀ {hs : List Nat}, c ∈ colonGroups hs → c = ':' ∨ ∃ d < 16, c = Nat.digitChar d := by
    intro hs hc
    obtain ⟨g, -, hg⟩ := List.mem_flatMap.mp hc
    rcases List.mem_cons.mp hg with rfl | hg
    · exact Or.inl rfl
    · exact Or.inr (mem_toDigits (by decide) hg)
  cases gs with
  | nil => cases hc
  | cons g gs =>
    rcases List.mem_append.mp hc with hc | hc
    · exact Or.inr (mem_toDigits (by decide) hc)
    · exact hcolon hc

theorem dot_not_mem_groupsChars (gs : List Nat) : '.' ∉ groupsChars gs := by
  intro h
  rcases mem_groupsChars h with h | ⟨d, hd, h⟩
  · cases h
  · exact (digitChar_ne hd).1 h.symm

theorem dot_not_mem_colonGroups (gs : List Nat) : '.' ∉ colonGroups gs := by
  intro h
  cases gs with
  | nil => cases h
  | cons g gs =>
    have hg : '.' ∈ groupsChars (g :: gs) := by
      simp only [colonGroups, List.flatMap_cons, List.cons_append, List.mem_cons, List.mem_append] at h
      simp only [groupsChars, List.mem_append]
      rcases h with h | h | h
      · cases h
      · exact Or.inl h
      · exact Or.inr h
    exact dot_not_mem_groupsChars _ hg

theorem readGroup_toDigits {g : Nat} {rest : List Char} (hg : g ≤ 0xFFFF)
    (hrest : ∀ c ∈ rest.head?, digitIn 16 c = none) :
    readGroup (Nat.toDigits 16 g ++ rest) = some (g, rest) :=
  readNumber_toDigits (Or.inr rfl) hg
    ((Nat.length_toDigits_le_iff (by decide) (by decide)).mpr (by show g < 65536; omega)) hrest true

theorem readGroup_eq_none {cs : List Char} (hcs : ∀ c ∈ cs.head?, digitIn 16 c = none) :
    readGroup cs = none :=
  readNumber_eq_none hcs true

/-- After groups comes a `::` or the end of the text. -/
def GroupsEnd (rest : List Char) : Prop := rest = [] ∨ ∃ rest', rest = ':' :: ':' :: rest'

theorem GroupsEnd.head {rest : List Char} (h : GroupsEnd rest) (d : Nat) :
    ∀ c ∈ rest.head?, digitIn d c = none := by
  rcases h with rfl | ⟨rest', rfl⟩
  · intro c hc
    cases hc
  · intro c hc
    rw [List.head?_cons, Option.mem_def, Option.some.injEq] at hc
    subst hc
    simp [digitIn]

/-- Reading groups stops at a `::` or at the end of the text, where no number
starts. -/
theorem readGroups_stop {rest : List Char} (hrest : GroupsEnd rest) (k : Nat) (first : Bool) :
    readGroups k first rest = ([], false, rest) := by
  cases k with
  | zero => rfl
  | succ k =>
    have hsep : ∀ cs, (if first then some rest else expect ':' rest) = some cs →
        readV4 cs = none ∧ readGroup cs = none := by
      intro cs hcs
      have hhead : ∀ c ∈ cs.head?, digitIn 10 c = none ∧ digitIn 16 c = none := by
        cases first with
        | true =>
          rw [if_pos rfl, Option.some.injEq] at hcs
          subst hcs
          exact fun c hc => ⟨hrest.head 10 c hc, hrest.head 16 c hc⟩
        | false =>
          rw [if_neg (by decide)] at hcs
          rcases hrest with rfl | ⟨rest', rfl⟩
          · cases hcs
          · simp only [expect, ↓reduceIte, Option.some.injEq] at hcs
            subst hcs
            intro c hc
            rw [List.head?_cons, Option.mem_def, Option.some.injEq] at hc
            subst hc
            simp [digitIn]
      exact ⟨readV4_eq_none fun c hc => (hhead c hc).1, readGroup_eq_none fun c hc => (hhead c hc).2⟩
    simp only [readGroups]
    cases hafter : (if first then some rest else expect ':' rest) with
    | none => simp
    | some cs =>
      obtain ⟨h4, hg⟩ := hsep cs hafter
      simp [h4, hg]

theorem colonGroups_cons (g : Nat) (A : List Nat) :
    colonGroups (g :: A) = ':' :: (Nat.toDigits 16 g ++ colonGroups A) := by
  simp [colonGroups]

/-- What follows a group is a colon, or ends the groups. -/
theorem colonGroups_head {A : List Nat} {rest : List Char} (hrest : GroupsEnd rest) (d : Nat) :
    ∀ c ∈ (colonGroups A ++ rest).head?, digitIn d c = none := by
  cases A with
  | nil => exact hrest.head d
  | cons g A =>
    intro c hc
    rw [colonGroups_cons, List.cons_append, List.head?_cons, Option.mem_def, Option.some.injEq] at hc
    subst hc
    simp [digitIn]

/-- Groups after a first one read back, up to a `::` or the end. A group has
no dot, so it is never read as an IPv4 address. -/
theorem readGroups_colonGroups {A : List Nat} (hA : ∀ g ∈ A, g ≤ 0xFFFF) {rest : List Char}
    (hrest : GroupsEnd rest) (hdot : '.' ∉ rest) {k : Nat} (hk : A.length ≤ k) :
    readGroups k false (colonGroups A ++ rest) = (A, false, rest) := by
  induction A generalizing k with
  | nil => exact readGroups_stop hrest k false
  | cons g A ih =>
    obtain ⟨k, rfl⟩ : ∃ k', k = k' + 1 := ⟨k - 1, by simp only [List.length_cons] at hk; omega⟩
    have hnodot : '.' ∉ Nat.toDigits 16 g ++ (colonGroups A ++ rest) := by
      intro h
      rcases List.mem_append.mp h with h | h
      · obtain ⟨d, hd, hc⟩ := mem_toDigits (by decide) h
        exact (digitChar_ne hd).1 hc.symm
      · rcases List.mem_append.mp h with h | h
        · exact dot_not_mem_colonGroups A h
        · exact hdot h
    have hdotted : (if k ≥ 1 then readV4 (Nat.toDigits 16 g ++ (colonGroups A ++ rest)) else none) = none := by
      split
      · exact readV4_of_no_dot hnodot
      · rfl
    have hgroup := readGroup_toDigits (hA g List.mem_cons_self) (colonGroups_head (A := A) hrest 16)
    have htail := ih (fun g hg => hA g (List.mem_cons_of_mem _ hg)) (k := k)
      (by simp only [List.length_cons] at hk; omega)
    rw [colonGroups_cons, List.cons_append, List.append_assoc]
    simp only [readGroups, Bool.false_eq_true, ↓reduceIte, expect, Option.bind_some]
    rw [hdotted, hgroup]
    simp only [htail]

/-- Groups joined by colons read back, up to a `::` or the end. -/
theorem readGroups_groupsChars {A : List Nat} (hA : ∀ g ∈ A, g ≤ 0xFFFF) {rest : List Char}
    (hrest : GroupsEnd rest) (hdot : '.' ∉ rest) {k : Nat} (hk : A.length ≤ k) :
    readGroups k true (groupsChars A ++ rest) = (A, false, rest) := by
  cases A with
  | nil => exact readGroups_stop hrest k true
  | cons g A =>
    obtain ⟨k, rfl⟩ : ∃ k', k = k' + 1 := ⟨k - 1, by simp only [List.length_cons] at hk; omega⟩
    have hnodot : '.' ∉ groupsChars (g :: A) ++ rest := by
      intro h
      rcases List.mem_append.mp h with h | h
      · exact dot_not_mem_groupsChars _ h
      · exact hdot h
    have hdotted : (if k ≥ 1 then readV4 (groupsChars (g :: A) ++ rest) else none) = none := by
      split
      · exact readV4_of_no_dot hnodot
      · rfl
    have hgroup := readGroup_toDigits (hA g List.mem_cons_self) (colonGroups_head (A := A) hrest 16)
    have htail := readGroups_colonGroups (fun g hg => hA g (List.mem_cons_of_mem _ hg)) hrest hdot
      (k := k) (by simp only [List.length_cons] at hk; omega)
    simp only [readGroups, ↓reduceIte, Option.bind_some]
    rw [hdotted]
    simp only [groupsChars, List.append_assoc]
    rw [hgroup]
    simp only [htail]

/-! ## The IPv6 forms -/

/-- Eight groups written in full read back. -/
theorem readV6_groupsChars {gs : List Nat} (hgs : ∀ g ∈ gs, g ≤ 0xFFFF) (hlen : gs.length = 8) :
    readV6 (groupsChars gs) = some (ofGroups gs, []) := by
  have hread := readGroups_groupsChars hgs (Or.inl rfl) List.not_mem_nil (k := 8) (by omega)
  rw [List.append_nil] at hread
  simp [readV6, hread, hlen]

/-- Groups around a `::` read back, with the groups the `::` stands for made
zero. -/
theorem readV6_compressed {A B : List Nat} (hA : ∀ g ∈ A, g ≤ 0xFFFF) (hB : ∀ g ∈ B, g ≤ 0xFFFF)
    (hlen : A.length + B.length ≤ 6) :
    readV6 (groupsChars A ++ ':' :: ':' :: groupsChars B) =
      some (ofGroups (A ++ List.replicate (8 - A.length - B.length) 0 ++ B), []) := by
  have hdot : '.' ∉ ':' :: ':' :: groupsChars B := by
    simp only [List.mem_cons, List.mem_cons]
    rintro (h | h | h)
    · cases h
    · cases h
    · exact dot_not_mem_groupsChars B h
  have hhead := readGroups_groupsChars hA (Or.inr ⟨_, rfl⟩) hdot (k := 8) (by omega)
  have htail := readGroups_groupsChars hB (Or.inl rfl) List.not_mem_nil (k := 7 - A.length)
    (by omega)
  rw [List.append_nil] at htail
  have hne : A.length ≠ 8 := by omega
  simp [readV6, hhead, hne, htail]

/-- The IPv4-mapped form reads back as its eight groups: after `::`, `ffff` is
one group and the dotted address stands for the last two. -/
theorem readV6_mapped {v : Nat} (hv : v < 0x100000000) :
    readV6 ("::ffff:" ++ dotted v).toList =
      some (ofGroups [0, 0, 0, 0, 0, 0xFFFF, v / 0x10000, v % 0x10000], []) := by
  have hffff : Nat.toDigits 16 0xFFFF = ['f', 'f', 'f', 'f'] := by decide
  have hchars : ("::ffff:" ++ dotted v).toList =
      ':' :: ':' :: (Nat.toDigits 16 0xFFFF ++ ':' :: (dotted v).toList) := by
    rw [hffff, String.toList_append]
    rfl
  have hhead : readGroups 8 true (':' :: ':' :: (Nat.toDigits 16 0xFFFF ++ ':' :: (dotted v).toList)) =
      ([], false, ':' :: ':' :: (Nat.toDigits 16 0xFFFF ++ ':' :: (dotted v).toList)) :=
    readGroups_stop (Or.inr ⟨_, rfl⟩) 8 true
  have hv4 : readV4 (dotted v).toList = some (v, []) := by
    simpa using @readV4_dotted v hv [] (fun c hc => by cases hc)
  have hf : readV4 (Nat.toDigits 16 0xFFFF ++ ':' :: (dotted v).toList) = none :=
    readV4_eq_none (by rw [hffff]; simp [digitIn])
  have hg := @readGroup_toDigits 0xFFFF (':' :: (dotted v).toList) (by decide) (by simp [digitIn])
  have hlast : readGroups 6 false (':' :: (dotted v).toList) = ([v / 0x10000, v % 0x10000], true, []) := by
    rw [readGroups.eq_2]
    simp only [Bool.false_eq_true, ↓reduceIte, expect, Option.bind_some]
    rw [hv4]
    rfl
  have htail : readGroups 7 true (Nat.toDigits 16 0xFFFF ++ ':' :: (dotted v).toList) =
      ([0xFFFF, v / 0x10000, v % 0x10000], true, []) := by
    rw [readGroups.eq_2]
    simp only [↓reduceIte, Option.bind_some]
    rw [hf, hg]
    simp only [hlast]
    rfl
  rw [hchars]
  simp only [readV6, hhead]
  simp [htail]
/-! ## Groups of an address -/

theorem groups_length (b : Nat) : (groups b).length = 8 := by
  simp [groups]

theorem groups_le (b : Nat) : ∀ g ∈ groups b, g ≤ 0xFFFF := by
  intro g hg
  simp only [groups, List.mem_map, List.mem_range] at hg
  obtain ⟨i, -, rfl⟩ := hg
  exact Nat.le_of_lt_succ (Nat.mod_lt _ (by decide))

/-- The groups of 128 bits spell them. -/
theorem ofGroups_groups {b : Nat} (hb : b < Nat.pow 2 128) : ofGroups (groups b) = b := by
  have hb' : b < 340282366920938463463374607431768211456 := hb
  have h1 : b / 4294967296 = b / 65536 / 65536 := by rw [Nat.div_div_eq_div_mul]
  have h2 : b / 281474976710656 = b / 4294967296 / 65536 := by rw [Nat.div_div_eq_div_mul]
  have h3 : b / 18446744073709551616 = b / 281474976710656 / 65536 := by rw [Nat.div_div_eq_div_mul]
  have h4 : b / 1208925819614629174706176 = b / 18446744073709551616 / 65536 := by
    rw [Nat.div_div_eq_div_mul]
  have h5 : b / 79228162514264337593543950336 = b / 1208925819614629174706176 / 65536 := by
    rw [Nat.div_div_eq_div_mul]
  have h6 : b / 5192296858534827628530496329220096 = b / 79228162514264337593543950336 / 65536 := by
    rw [Nat.div_div_eq_div_mul]
  simp [groups, ofGroups, List.range_succ]
  omega

/-! ## The zero run -/

/-- One step of the search for the first longest run of zero groups: the best
run, the current run and the position. -/
def zeroRunStep (st : (Nat × Nat) × (Nat × Nat) × Nat) (g : Nat) : (Nat × Nat) × (Nat × Nat) × Nat :=
  let (best, cur, i) := st
  if g = 0 then
    let cur := if cur.2 = 0 then (i, 1) else (cur.1, cur.2 + 1)
    let best := if cur.2 > best.2 then cur else best
    (best, cur, i + 1)
  else (best, (0, 0), i + 1)

theorem zeroRun_eq (gs : List Nat) : zeroRun gs = (gs.foldl zeroRunStep ((0, 0), (0, 0), 0)).1 := rfl

/-- What the search knows after the groups `xs`: the position is their count,
the current run ends there and is made of zeros, and so is the best run. -/
def RunInv (xs : List Nat) (st : (Nat × Nat) × (Nat × Nat) × Nat) : Prop :=
  st.2.2 = xs.length ∧
  (st.2.1.2 = 0 ∨ (st.2.1.1 + st.2.1.2 = xs.length ∧ ∀ x ∈ xs.drop st.2.1.1, x = 0)) ∧
  (st.1.2 = 0 ∨ (st.1.1 + st.1.2 ≤ xs.length ∧ ∀ x ∈ (xs.drop st.1.1).take st.1.2, x = 0))

/-- One more group keeps `RunInv`: a zero extends the current run or starts
one, any other group ends it, and the best run stays a run of the longer list. -/
theorem runInv_step {xs : List Nat} {st : (Nat × Nat) × (Nat × Nat) × Nat} (h : RunInv xs st) (g : Nat) :
    RunInv (xs ++ [g]) (zeroRunStep st g) := by
  obtain ⟨⟨bs, bl⟩, ⟨cs, cl⟩, i⟩ := st
  obtain ⟨hi, hcur, hbest⟩ := h
  simp only at hi hcur hbest
  have hbest' : bl = 0 ∨ (bs + bl ≤ (xs ++ [g]).length ∧ ∀ x ∈ ((xs ++ [g]).drop bs).take bl, x = 0) := by
    rcases hbest with h0 | ⟨hle, hz⟩
    · exact Or.inl h0
    · refine Or.inr ⟨by simp only [List.length_append, List.length_singleton]; omega, ?_⟩
      rw [List.drop_append_of_le_length (by omega), List.take_append_of_le_length (by simp; omega)]
      exact hz
  by_cases hg : g = 0
  · subst hg
    obtain ⟨c, hc, hlen', hz'⟩ : ∃ c : Nat × Nat, (if cl = 0 then (i, 1) else (cs, cl + 1)) = c ∧
        c.1 + c.2 = (xs ++ [0]).length ∧ ∀ x ∈ (xs ++ [0]).drop c.1, x = 0 := by
      refine ⟨_, rfl, ?_⟩
      simp only [List.length_append, List.length_singleton]
      split
      · refine ⟨by simp only; omega, fun x hx => ?_⟩
        rw [hi, List.drop_append_of_le_length (Nat.le_refl _), List.drop_length, List.nil_append] at hx
        exact List.mem_singleton.mp hx
      · rcases hcur with h0 | ⟨hlen, hz⟩
        · contradiction
        refine ⟨by simp only; omega, fun x hx => ?_⟩
        rw [List.drop_append_of_le_length (by omega)] at hx
        rcases List.mem_append.mp hx with hx | hx
        · exact hz x hx
        · exact List.mem_singleton.mp hx
    have hstep : zeroRunStep ((bs, bl), (cs, cl), i) 0 = (if c.2 > bl then c else (bs, bl), c, i + 1) := by
      rw [← hc]
      rfl
    rw [hstep]
    refine ⟨by simp [hi], Or.inr ⟨hlen', hz'⟩, ?_⟩
    split
    · exact Or.inr ⟨Nat.le_of_eq hlen', fun x hx => hz' x (List.mem_of_mem_take hx)⟩
    · exact hbest'
  · have hstep : zeroRunStep ((bs, bl), (cs, cl), i) g = ((bs, bl), (0, 0), i + 1) := by
      simp [zeroRunStep, hg]
    rw [hstep]
    exact ⟨by simp [hi], Or.inl rfl, hbest'⟩

theorem runInv_foldl (xs : List Nat) : RunInv xs (xs.foldl zeroRunStep ((0, 0), (0, 0), 0)) := by
  induction xs using List.reverseRecOn with
  | nil => simp [RunInv]
  | append_singleton xs g ih =>
    rw [List.foldl_append, List.foldl_cons, List.foldl_nil]
    exact runInv_step ih g

/-- The run that the writer compresses is made of zero groups. -/
theorem zeroRun_zeros (gs : List Nat) :
    (zeroRun gs).2 = 0 ∨ ((zeroRun gs).1 + (zeroRun gs).2 ≤ gs.length ∧
      (gs.drop (zeroRun gs).1).take (zeroRun gs).2 = List.replicate (zeroRun gs).2 0) := by
  rw [zeroRun_eq]
  obtain ⟨-, -, hbest⟩ := runInv_foldl gs
  rcases hbest with h0 | ⟨hle, hz⟩
  · exact Or.inl h0
  · refine Or.inr ⟨hle, List.eq_replicate_iff.mpr ⟨?_, hz⟩⟩
    simp only [List.length_take, List.length_drop]
    omega

/-- Groups are the groups before the zero run, the run, and the groups after. -/
theorem eq_zeroRun_split (gs : List Nat) :
    gs = gs.take (zeroRun gs).1 ++ List.replicate (zeroRun gs).2 0 ++ gs.drop ((zeroRun gs).1 + (zeroRun gs).2) := by
  rcases zeroRun_zeros gs with h0 | ⟨-, hz⟩
  · rw [h0, List.replicate_zero, List.append_nil, Nat.add_zero, List.take_append_drop]
  · rw [← hz, ← List.drop_drop, List.append_assoc, List.take_append_drop, List.take_append_drop]

/-! ## Writing and reading back -/

/-- The compressed form of groups: those before the zero run, `::`, those
after it. -/
theorem hexForm_compressed_toList (gs : List Nat) (s l : Nat) :
    (joinGroups (gs.take s) ++ "::" ++ joinGroups (gs.drop (s + l))).toList =
      groupsChars (gs.take s) ++ ':' :: ':' :: groupsChars (gs.drop (s + l)) := by
  simp [String.toList_append, joinGroups_toList]

/-- The text of 128 bits reads back, in each of its forms: the IPv4-mapped one,
the one that writes the longest zero run as `::`, and the one that writes every
group. -/
theorem readV6_hexForm {b : Nat} (hb : b < Nat.pow 2 128) : readV6 (hexForm b).toList = some (b, []) := by
  unfold hexForm
  split
  · rename_i hm
    rw [readV6_mapped (Nat.mod_lt _ (by decide))]
    have hb' : b < 340282366920938463463374607431768211456 := hb
    simp only [ofGroups, List.foldl_cons, List.foldl_nil, Option.some.injEq, Prod.mk.injEq, and_true]
    omega
  · rcases hz : zeroRun (groups b) with ⟨s, l⟩
    simp only [hz]
    split
    · rename_i hl
      have hsplit := eq_zeroRun_split (groups b)
      simp only [hz] at hsplit
      have hle : s + l ≤ 8 := by
        rcases zeroRun_zeros (groups b) with h0 | ⟨hle, -⟩
        · simp only [hz] at h0; omega
        · simp only [hz, groups_length] at hle; exact hle
      have hA : ∀ g ∈ (groups b).take s, g ≤ 0xFFFF := fun g hg => groups_le b g (List.mem_of_mem_take hg)
      have hB : ∀ g ∈ (groups b).drop (s + l), g ≤ 0xFFFF :=
        fun g hg => groups_le b g (List.mem_of_mem_drop hg)
      have hlenA : ((groups b).take s).length = s := by simp [groups_length]; omega
      have hlenB : ((groups b).drop (s + l)).length = 8 - (s + l) := by simp [groups_length]
      rw [hexForm_compressed_toList, readV6_compressed hA hB (by omega), hlenA, hlenB,
        show 8 - s - (8 - (s + l)) = l by omega, ← hsplit, ofGroups_groups hb]
    · rw [joinGroups_toList, readV6_groupsChars (groups_le b) (groups_length b), ofGroups_groups hb]

/-- The IPv6 text is never an IPv4 address: it starts with a colon or has no
dot. -/
theorem readV4_hexForm (b : Nat) : readV4 (hexForm b).toList = none := by
  unfold hexForm
  split
  · have hmapped : "::ffff:".toList = [':', ':', 'f', 'f', 'f', 'f', ':'] := rfl
    exact readV4_eq_none (by simp [String.toList_append, hmapped, digitIn])
  · rcases hz : zeroRun (groups b) with ⟨s, l⟩
    simp only [hz]
    split
    · rw [hexForm_compressed_toList]
      refine readV4_of_no_dot fun h => ?_
      rcases List.mem_append.mp h with h | h
      · exact dot_not_mem_groupsChars _ h
      · simp only [List.mem_cons] at h
        rcases h with h | h | h
        · cases h
        · cases h
        · exact dot_not_mem_groupsChars _ h
    · rw [joinGroups_toList]
      exact readV4_of_no_dot (dot_not_mem_groupsChars _)

/-- Every address reads back from its text. -/
theorem parseChars_render (a : IpAddr) : parseChars (render a).toList = some a := by
  cases a with
  | v4 b =>
    have h := @readV4_dotted b.toNat b.isLt [] (fun c hc => by cases hc)
    rw [List.append_nil] at h
    simp [parseChars, render, h]
  | v6 b =>
    have h6 : readV6 (hexForm b.toNat).toList = some (b.toNat, []) := readV6_hexForm b.isLt
    simp [parseChars, render, readV4_hexForm, h6]

theorem parse_render (a : IpAddr) : parse (render a) = some a :=
  parseChars_render a

/-! ## The characters of an address -/

/-- A character an address is written with: a dot, a colon or a hexadecimal
digit. -/
def AddressChar (c : Char) : Prop := c = '.' ∨ c = ':' ∨ ∃ d < 16, c = Nat.digitChar d

theorem addressChar_of_mem_toDigits {radix n : Nat} {c : Char} (hr : Radix radix)
    (hc : c ∈ Nat.toDigits radix n) : AddressChar c := by
  obtain ⟨d, hd, rfl⟩ := mem_toDigits hr.one_lt hc
  exact Or.inr (Or.inr ⟨d, by rcases hr with rfl | rfl <;> omega, rfl⟩)

theorem addressChar_of_mem_dotted {b : Nat} {c : Char} (hc : c ∈ (dotted b).toList) : AddressChar c := by
  rw [dotted_toList] at hc
  simp only [List.mem_append, List.mem_cons] at hc
  rcases hc with h | h | h | h | h | h | h
  · exact addressChar_of_mem_toDigits (Or.inl rfl) h
  · exact Or.inl h
  · exact addressChar_of_mem_toDigits (Or.inl rfl) h
  · exact Or.inl h
  · exact addressChar_of_mem_toDigits (Or.inl rfl) h
  · exact Or.inl h
  · exact addressChar_of_mem_toDigits (Or.inl rfl) h

theorem addressChar_of_mem_groupsChars {gs : List Nat} {c : Char} (hc : c ∈ groupsChars gs) :
    AddressChar c := by
  rcases mem_groupsChars hc with h | h
  · exact Or.inr (Or.inl h)
  · exact Or.inr (Or.inr h)

/-- The text of an address is made of dots, colons and hexadecimal digits. -/
theorem addressChar_of_mem_render {a : IpAddr} {c : Char} (hc : c ∈ (render a).toList) :
    AddressChar c := by
  cases a with
  | v4 b => exact addressChar_of_mem_dotted hc
  | v6 b =>
    simp only [render] at hc
    unfold hexForm at hc
    split at hc
    · have hmapped : ∀ c ∈ "::ffff:".toList, AddressChar c := by
        have hcolon : AddressChar ':' := Or.inr (Or.inl rfl)
        have hf : AddressChar 'f' := Or.inr (Or.inr ⟨15, by decide, rfl⟩)
        rw [show "::ffff:".toList = [':', ':', 'f', 'f', 'f', 'f', ':'] from rfl]
        simp only [List.forall_mem_cons]
        exact ⟨hcolon, hcolon, hf, hf, hf, hf, hcolon, fun _ h => absurd h List.not_mem_nil⟩
      rw [String.toList_append, List.mem_append] at hc
      rcases hc with hc | hc
      · exact hmapped c hc
      · exact addressChar_of_mem_dotted hc
    · rcases hz : zeroRun (groups b.toNat) with ⟨s, l⟩
      simp only [hz] at hc
      split at hc
      · rw [hexForm_compressed_toList] at hc
        simp only [List.mem_append, List.mem_cons] at hc
        rcases hc with h | h | h | h
        · exact addressChar_of_mem_groupsChars h
        · exact Or.inr (Or.inl h)
        · exact Or.inr (Or.inl h)
        · exact addressChar_of_mem_groupsChars h
      · rw [joinGroups_toList] at hc
        exact addressChar_of_mem_groupsChars hc

end GeoAccess.IpAddr
