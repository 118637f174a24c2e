import GeoAccess.Proofs.Invariants
import GeoAccess.Authorization.Service
import Mathlib.Data.List.Basic

/-!
# Refused writes

A write on the rule store checks its input in a fixed order and reports the
first check that fails as a `StoreError` of kind `Validation`, `Conflict` or
`NotFound`; a refused write changes nothing and announces nothing.
`failureKind` reads the kind off a write's result, and `RuleWrite.refusal`
states, in the store's own terms, which check a write fails first.

The checks are composed with `Option.or`, first failure first
(`failureKind_seq`), and each check is stated once: the payload and
duplicate checks (`checkPayload_kind`, `checkDuplicates_kind`), the lookup
(`get_kind`), and the move of priorities, which fails as soon as one moved
priority would leave the 64-bit range (`shifted_kind`, `shift_kind`,
`makeRoom_kind`). In a store whose priorities fit 64 bits (`Table.Bounded`),
the room a creation or a save makes fails exactly when the largest stored
priority is the top one (`makeRoom_kind_bounded`). Every write that carries a
priority that fits keeps a store bounded (`RuleWrite.bounded_step`), so every
store a run of such writes reaches is (`RuleStore.bounded_run`); there each
write fails exactly as `RuleWrite.refusal` says (`RuleWrite.failureKind_apply`),
and a failed write leaves store and service as they were
(`refused_writes_change_nothing`).
-/

namespace GeoAccess

open Prioritized LawfulPrioritized Table

/-- The kind of failure a result reports, none for a success. -/
def failureKind {α : Type} : Except StoreError α → Option String
  | .ok _ => none
  | .error e => some e.kind

/-- A check that fails with the kind `k` exactly when `c` holds. -/
def refuseWhen (c : Prop) [Decidable c] (k : String) : Option String := if c then some k else none

@[simp] theorem failureKind_ok {α : Type} (a : α) : failureKind (.ok a : Except StoreError α) = none := rfl

@[simp] theorem failureKind_error {α : Type} (e : StoreError) :
    failureKind (.error e : Except StoreError α) = some e.kind := rfl

@[simp] theorem failureKind_map {α β : Type} (f : α → β) (x : Except StoreError α) :
    failureKind (x.map f) = failureKind x := by
  cases x <;> rfl

/-- Checks run in sequence report the first that fails. -/
theorem failureKind_seq {β : Type} (x : Except StoreError Unit) (f : Unit → Except StoreError β) :
    failureKind (x >>= f) = (failureKind x).or (failureKind (f ())) := by
  cases x <;> rfl

theorem failureKind_ok_bind {α β : Type} (a : α) (f : α → Except StoreError β) :
    failureKind (.ok a >>= f) = failureKind (f a) := rfl

/-- A step that cannot fail adds no failure. -/
theorem failureKind_bind_ok {α β : Type} (x : Except StoreError α) {f : α → Except StoreError β}
    (hf : ∀ a, failureKind (f a) = none) : failureKind (x >>= f) = failureKind x := by
  cases x with
  | ok a => exact hf a
  | error e => rfl

theorem refuseWhen_pos {c : Prop} [Decidable c] (h : c) (k : String) : refuseWhen c k = some k :=
  if_pos h

theorem refuseWhen_neg {c : Prop} [Decidable c] (h : ¬ c) (k : String) : refuseWhen c k = none :=
  if_neg h

theorem refuseWhen_congr {c c' : Prop} [Decidable c] [Decidable c'] (h : c ↔ c') (k : String) :
    refuseWhen c k = refuseWhen c' k := by
  simp only [refuseWhen, h]

/-- A later check matters only where the earlier one passes. -/
theorem or_refuseWhen_congr {c : Prop} [Decidable c] {k : String} {x y : Option String}
    (h : ¬ c → x = y) : (refuseWhen c k).or x = (refuseWhen c k).or y := by
  by_cases hc : c
  · simp [refuseWhen, hc]
  · simp [refuseWhen, hc, h hc]

theorem refuseWhen_or {c c' : Prop} [Decidable c] [Decidable c'] (k : String) :
    (refuseWhen c k).or (refuseWhen c' k) = refuseWhen (c ∨ c') k := by
  by_cases hc : c <;> by_cases hc' : c' <;> simp [refuseWhen, hc, hc']

namespace Priority

/-- A priority fits the signed 64-bit numbers. -/
def Fits (p : Int) : Prop := bottom ≤ p ∧ p ≤ top

instance : DecidablePred Fits := fun p => inferInstanceAs (Decidable (bottom ≤ p ∧ p ≤ top))

/-- A priority not negative, moved up by a positive offset, leaves the range
only past the top. -/
theorem not_fits_iff {p offset : Int} (hp : 0 ≤ p) (hoff : 0 < offset) :
    ¬ Fits (p + offset) ↔ top < p + offset := by
  have hb : bottom ≤ 0 := by simp [bottom, Int.pow]
  simp only [Fits]
  constructor <;> intro h <;> omega

end Priority

/-! ## Moving priorities -/

namespace Table

variable {α : Type} [Prioritized α]

/-- A shift fails, before moving anything, exactly when one entry it would
move would leave the range of priorities. -/
theorem shifted_kind (start offset : Int) (ex : Option Nat) (es : List (Nat × α)) :
    failureKind (shifted start offset ex es) =
      refuseWhen (∃ e ∈ es, some e.1 ≠ ex ∧ start ≤ priority e.2 ∧ ¬ Priority.Fits (priority e.2 + offset))
        "Validation" := by
  induction es with
  | nil => simp [shifted, refuseWhen]
  | cons e es ih =>
    obtain ⟨k, a⟩ := e
    simp only [shifted]
    by_cases hm : some k ≠ ex ∧ start ≤ priority a
    · rw [if_pos hm]
      by_cases hr : Priority.bottom ≤ priority a + offset ∧ priority a + offset ≤ Priority.top
      · have hfit : Priority.Fits (priority a + offset) := hr
        rw [if_pos hr, failureKind_map, ih]
        refine refuseWhen_congr ?_ _
        rw [List.exists_mem_cons_iff, or_iff_right fun hx => hx.2.2 hfit]
      · rw [if_neg hr]
        exact (if_pos ⟨(k, a), List.mem_cons_self, hm.1, hm.2, hr⟩).symm
    · rw [if_neg hm, ih]
      refine refuseWhen_congr ?_ _
      rw [List.exists_mem_cons_iff, or_iff_right fun hx => hm ⟨hx.1, hx.2.1⟩]

theorem shift_kind (t : Table α) (start offset : Int) (ex : Option Nat) :
    failureKind (t.shift start offset ex) =
      refuseWhen (∃ e ∈ t.entries, some e.1 ≠ ex ∧ start ≤ priority e.2 ∧
        ¬ Priority.Fits (priority e.2 + offset)) "Validation" := by
  rw [Table.shift, failureKind_bind_ok _ fun _ => rfl, shifted_kind]

/-- Room-making fails exactly when some entry other than `ex` holds the target
and some entry it would move up by one would leave the range. -/
theorem makeRoom_kind (t : Table α) (target : Int) (ex : Option Nat) :
    failureKind (t.makeRoom target ex) =
      refuseWhen ((∃ e ∈ t.entries, some e.1 ≠ ex ∧ priority e.2 = target) ∧
        ∃ e ∈ t.entries, some e.1 ≠ ex ∧ target ≤ priority e.2 ∧ ¬ Priority.Fits (priority e.2 + 1))
        "Validation" := by
  unfold makeRoom
  split
  · rename_i hocc
    have hocc : ∃ e ∈ t.entries, some e.1 ≠ ex ∧ priority e.2 = target := by
      obtain ⟨e, he, hx⟩ := List.any_eq_true.mp hocc
      exact ⟨e, he, by simpa using hx⟩
    rw [failureKind_map, shift_kind]
    exact refuseWhen_congr ⟨fun h => ⟨hocc, h⟩, And.right⟩ _
  · rename_i hfree
    refine (if_neg ?_).symm
    rintro ⟨⟨e, he, hx⟩, -⟩
    exact hfree (List.any_eq_true.mpr ⟨e, he, by simpa using hx⟩)

/-! ## Tables whose priorities fit -/

/-- No entry's priority passes the top one, as no signed 64-bit priority does. -/
def Bounded (t : Table α) : Prop := ∀ e ∈ t.entries, priority e.2 ≤ Priority.top

omit [Prioritized α] in
theorem mem_putEntry {k : Nat} {a : α} {es : List (Nat × α)} {e : Nat × α} (h : e ∈ putEntry k a es) :
    e = (k, a) ∨ e ∈ es := by
  induction es with
  | nil => simpa [putEntry] using h
  | cons x xs ih =>
    obtain ⟨k', b⟩ := x
    simp only [putEntry] at h
    split at h
    · simpa using h
    · split at h
      · rcases List.mem_cons.mp h with rfl | h
        · exact .inl rfl
        · exact .inr (List.mem_cons_of_mem _ h)
      · rcases List.mem_cons.mp h with rfl | h
        · exact .inr List.mem_cons_self
        · exact (ih h).imp_right (List.mem_cons_of_mem _)

theorem Bounded.of_get? {t : Table α} (hb : t.Bounded) (ht : Ascending t.entries) {k : Nat} {a : α}
    (h : t.get? k = some a) : priority a ≤ Priority.top :=
  hb _ ((get?_eq_some_iff ht).mp h)

theorem Bounded.put {t : Table α} (hb : t.Bounded) (k : Nat) {a : α} (ha : priority a ≤ Priority.top) :
    (t.put k a).Bounded := by
  intro e he
  rcases mem_putEntry he with rfl | he
  · exact ha
  · exact hb e he

theorem Bounded.erase {t : Table α} (hb : t.Bounded) (k : Nat) : (t.erase k).Bounded :=
  fun e he => hb e (List.mem_filter.mp he).1

theorem Bounded.modify {t : Table α} (hb : t.Bounded) (k : Nat) {f : α → α}
    (hf : ∀ a, priority a ≤ Priority.top → priority (f a) ≤ Priority.top) : (t.modify k f).Bounded := by
  intro e he
  obtain ⟨⟨k', a⟩, ha, rfl⟩ := List.mem_map.mp he
  by_cases hk : k' = k
  · simpa [hk] using hf a (hb _ ha)
  · simpa [hk] using hb _ ha

/-- A shift moves nothing past the top. -/
theorem Bounded.shift [LawfulPrioritized α] {t t' : Table α} (hb : t.Bounded) {start offset : Int}
    {ex : Option Nat} {moved : List Nat} (ht : Ascending t.entries)
    (h : t.shift start offset ex = .ok (t', moved)) : t'.Bounded := by
  obtain ⟨-, hent, -, hin⟩ := shift_ok ht h
  intro e he
  rw [hent] at he
  obtain ⟨x, hx, rfl⟩ := List.mem_map.mp he
  cases hp : newPriority start offset ex x with
  | none => simpa [hp] using hb x hx
  | some p =>
    simp only [priority_setPriority]
    unfold newPriority at hp
    split at hp
    · rename_i hm
      cases hp
      exact hin x hx hm.1 hm.2
    · cases hp

theorem Bounded.makeRoom [LawfulPrioritized α] {t t' : Table α} (hb : t.Bounded) {target : Int}
    {ex : Option Nat} (ht : Ascending t.entries) (h : t.makeRoom target ex = .ok t') : t'.Bounded := by
  unfold Table.makeRoom at h
  split at h
  · obtain ⟨⟨t'', moved⟩, hs, rfl⟩ := map_eq_ok.mp h
    exact hb.shift ht hs
  · cases h
    exact hb

/-- In a bounded table the largest priority is the top one exactly when some
entry holds the top one. -/
theorem Bounded.max?_eq_top {t : Table α} (hb : t.Bounded) :
    (t.values.map priority).max? = some Priority.top ↔ ∃ x ∈ t.values, priority x = Priority.top := by
  rw [List.max?_eq_some_iff]
  constructor
  · rintro ⟨hmem, -⟩
    obtain ⟨x, hx, hp⟩ := List.mem_map.mp hmem
    exact ⟨x, hx, hp⟩
  · rintro ⟨x, hx, hp⟩
    refine ⟨List.mem_map.mpr ⟨x, hx, hp⟩, fun b hb' => ?_⟩
    obtain ⟨y, hy, rfl⟩ := List.mem_map.mp hb'
    obtain ⟨e, he, rfl⟩ := List.mem_map.mp hy
    exact hb e he

omit [Prioritized α] in
/-- Entries other than `none` are all entries. -/
theorem exists_entry_none (P : α → Prop) (t : Table α) :
    (∃ e ∈ t.entries, some e.1 ≠ none ∧ P e.2) ↔ ∃ x ∈ t.values, P x := by
  constructor
  · rintro ⟨e, he, -, hp⟩
    exact ⟨e.2, List.mem_map_of_mem he, hp⟩
  · rintro ⟨x, hx, hp⟩
    obtain ⟨e, he, rfl⟩ := List.mem_map.mp hx
    exact ⟨e, he, by simp, hp⟩

omit [Prioritized α] in
/-- Entries other than `some k` are those under another identifier. -/
theorem exists_entry_some (P : α → Prop) (t : Table α) (k : Nat) :
    (∃ e ∈ t.entries, some e.1 ≠ some k ∧ P e.2) ↔ ∃ x ∈ others k t, P x := by
  constructor
  · rintro ⟨e, he, hk, hp⟩
    exact ⟨e.2, mem_others he fun h => hk (congrArg some h), hp⟩
  · rintro ⟨x, hx, hp⟩
    obtain ⟨e, he, rfl⟩ := List.mem_map.mp hx
    exact ⟨e, (List.mem_filter.mp he).1, by simpa using (List.mem_filter.mp he).2, hp⟩

/-- In a valid, bounded table, room-making fails exactly when some entry other
than `ex` holds the target and some entry other than `ex` holds the top
priority: that one is at or above the target, and only it cannot move up. -/
theorem makeRoom_kind_bounded [LawfulPrioritized α] {t : Table α} (hv : t.Valid) (hb : t.Bounded)
    (target : Int) (ex : Option Nat) :
    failureKind (t.makeRoom target ex) =
      refuseWhen ((∃ e ∈ t.entries, some e.1 ≠ ex ∧ priority e.2 = target) ∧
        ∃ e ∈ t.entries, some e.1 ≠ ex ∧ priority e.2 = Priority.top) "Validation" := by
  rw [makeRoom_kind]
  refine refuseWhen_congr ⟨?_, ?_⟩ _
  · rintro ⟨hocc, e, he, hne, -, hfit⟩
    have := (Priority.not_fits_iff (hv.nonneg e he) Int.one_pos).mp hfit
    have := hb e he
    exact ⟨hocc, e, he, hne, by omega⟩
  · rintro ⟨⟨o, ho, hone, hot⟩, e, he, hne, het⟩
    have := hb o ho
    refine ⟨⟨o, ho, hone, hot⟩, e, he, hne, by omega, ?_⟩
    rw [Priority.not_fits_iff (hv.nonneg e he) Int.one_pos]
    omega

/-- A request at most the top resolves, in a bounded table, to at most the top. -/
theorem Bounded.resolve_le {t : Table α} (hb : t.Bounded) {k : Int} (hk : k ≤ Priority.top)
    (pos : InsertPosition) : t.resolve k pos ≤ Priority.top := by
  have htop : (0 : Int) ≤ Priority.top := by simp [Priority.top, Int.pow]
  rcases resolve_cases t k pos with h | h | ⟨p, hp, h | h⟩ <;> rw [h]
  · exact hk
  · exact htop
  · obtain ⟨x, hx, rfl⟩ := List.mem_map.mp hp
    obtain ⟨e, he, rfl⟩ := List.mem_map.mp hx
    exact hb e he
  · obtain ⟨x, hx, rfl⟩ := List.mem_map.mp hp
    obtain ⟨e, he, rfl⟩ := List.mem_map.mp hx
    have := hb e he
    unfold Priority.succSat
    split <;> omega

end Table

/-! ## The checks of the rule store -/

namespace RuleStore

variable {s : RuleStore}

theorem checkPriority_kind (p : Int) : failureKind (checkPriority p) = refuseWhen (p < 0) "Validation" := by
  unfold checkPriority refuseWhen
  split <;> rfl

theorem checkPayload_kind (r : Rule) :
    failureKind (checkPayload r) =
      refuseWhen (r.access.layerDetails.isSome ∧ r.ident.layer.isNone) "Validation" := by
  unfold checkPayload refuseWhen
  by_cases h : r.access.layerDetails.isSome = true ∧ r.ident.layer.isNone = true
  · rw [if_pos (by simpa using h), if_pos h]
    rfl
  · rw [if_neg (by simpa using h), if_neg h]
    rfl

theorem checkDuplicates_kind (r : Rule) (own : Option Nat) :
    failureKind (s.checkDuplicates r own) =
      refuseWhen (r.grant ≠ .limit ∧ ∃ e ∈ s.table.entries, some e.1 ≠ own ∧
        e.2.identityKey = r.identityKey) "Conflict" := by
  unfold checkDuplicates refuseWhen
  split
  · rename_i hl
    simp [hl]
  · rename_i hl
    split
    · rename_i hany
      obtain ⟨e, he, hd⟩ := List.any_eq_true.mp hany
      simp only [decide_eq_true_eq] at hd
      simp only [failureKind_error, StoreError.kind, StoreError.parts]
      exact (if_pos ⟨hl, e, he, hd⟩).symm
    · rename_i hany
      refine (if_neg ?_).symm
      rintro ⟨-, e, he, hd⟩
      exact hany (List.any_eq_true.mpr ⟨e, he, by simpa using hd⟩)

theorem get_of_findById_none {id : Nat} (h : s.findById id = none) : s.get id = .error (notFound id) := by
  unfold get
  rw [show s.table.get? id = none from h]

theorem get_kind (id : Nat) : failureKind (s.get id) = refuseWhen (s.findById id = none) "NotFound" := by
  unfold get refuseWhen findById
  split <;> rename_i h <;> simp [h, notFound, StoreError.kind, StoreError.parts]

/-- A creation that succeeds made room at the resolved priority, then stored
the rule there under the next identifier. -/
theorem create_room {r : Rule} {pos : InsertPosition} {c : Committed RuleStore Rule}
    (h : s.create r pos = .ok c) :
    ∃ t', s.table.makeRoom (s.table.resolve r.priority pos) none = .ok t' ∧
      c.store.table = t'.nextId.2.put t'.nextId.1 c.answer ∧
      c.answer.priority = s.table.resolve r.priority pos := by
  simp only [create] at h
  split at h
  · cases h
  obtain ⟨_, -, h⟩ := bind_eq_ok.mp h
  obtain ⟨_, -, h⟩ := bind_eq_ok.mp h
  obtain ⟨_, -, h⟩ := bind_eq_ok.mp h
  obtain ⟨t', hroom, h⟩ := bind_eq_ok.mp h
  simp only [pure, Except.pure, Except.ok.injEq] at h
  subst h
  exact ⟨t', hroom, rfl, rfl⟩

/-- A save that succeeds stored the rule under its identifier, after room was
made at its priority or, when that stayed, with nothing moved. -/
theorem save_room {r : Rule} {c : Committed RuleStore Rule} (h : s.save r = .ok c) :
    ∃ id t', r.id = some id ∧ (t' = s.table ∨ s.table.makeRoom r.priority (some id) = .ok t') ∧
      c.store.table = t'.put id r := by
  simp only [save] at h
  split at h
  · rename_i id hid
    obtain ⟨_, -, h⟩ := bind_eq_ok.mp h
    obtain ⟨_, -, h⟩ := bind_eq_ok.mp h
    obtain ⟨_, -, h⟩ := bind_eq_ok.mp h
    obtain ⟨_, -, h⟩ := bind_eq_ok.mp h
    split at h
    · obtain ⟨t', hroom, h⟩ := bind_eq_ok.mp h
      simp only [pure, Except.pure, Except.ok.injEq] at h
      subst h
      exact ⟨id, t', hid, .inr hroom, rfl⟩
    · simp only [pure, Except.pure, bind, Except.bind, Except.ok.injEq] at h
      subst h
      exact ⟨id, s.table, hid, .inl rfl, rfl⟩
  · cases h

end RuleStore

/-! ## Runs of writes whose priorities fit -/

namespace RuleWrite

/-- The priority a written rule carries is at most the top one, as a signed
64-bit priority always is. -/
def InRange : RuleWrite → Prop
  | .create r _ => r.priority ≤ Priority.top
  | .save r => r.priority ≤ Priority.top
  | _ => True

variable {s : RuleStore} {w : RuleWrite}

/-- A successful write that carries a priority that fits keeps a valid table
bounded: moves are checked against the top, a new priority is one asked for or
resolved from stored ones, and the other changes keep the priorities. -/
theorem bounded_apply (hv : s.table.Valid) (hb : s.table.Bounded) (hw : w.InRange)
    {c : Committed RuleStore Unit} (h : w.apply s = .ok c) : c.store.table.Bounded := by
  cases w with
  | create r pos =>
    obtain ⟨c, hc, rfl⟩ := map_eq_ok.mp h
    obtain ⟨t', hroom, ht, hp⟩ := RuleStore.create_room hc
    simp only [Committed.drop, ht]
    exact Bounded.put (hb.makeRoom hv.ascending hroom) _ (by simpa [hp] using hb.resolve_le hw pos)
  | save r =>
    obtain ⟨c, hc, rfl⟩ := map_eq_ok.mp h
    obtain ⟨id, t', -, hroom, ht⟩ := RuleStore.save_room hc
    have hb' : t'.Bounded := by
      rcases hroom with rfl | hroom
      · exact hb
      · exact hb.makeRoom hv.ascending hroom
    simp only [Committed.drop, ht]
    exact hb'.put id hw
  | delete id =>
    cases h
    simp only [Committed.drop, RuleStore.delete]
    split
    · exact hb.erase id
    · exact hb
  | shift start offset =>
    obtain ⟨c, hc, rfl⟩ := map_eq_ok.mp h
    simp only [RuleStore.shift] at hc
    split at hc
    · cases hc
    obtain ⟨⟨t', moved⟩, hs, hc⟩ := bind_eq_ok.mp hc
    split at hc <;> simp only [pure, Except.pure, Except.ok.injEq] at hc <;> subst hc
    · exact hb
    · exact hb.shift hv.ascending hs
  | swap id₁ id₂ =>
    obtain ⟨r₁, r₂, h₁, h₂, ht, -⟩ := RuleStore.swap_ok h
    rw [ht]
    have hp₁ := hb.of_get? hv.ascending h₁
    have hp₂ := hb.of_get? hv.ascending h₂
    exact (hb.modify id₁ fun _ _ => by simpa using hp₂).modify id₂ fun _ _ => by simpa using hp₁
  | setAllowedStyles id styles =>
    obtain ⟨old, d, hold, -, -, ht, -⟩ := RuleStore.setAllowedStyles_ok h
    rw [ht]
    have hp := hb.of_get? hv.ascending hold
    exact hb.put id hp
  | setLimits id limits =>
    obtain ⟨old, new, hold, hnew, ht, -⟩ := RuleStore.setLimits_ok h
    have hp := hb.of_get? hv.ascending hold
    rw [ht]
    rcases hnew with ⟨-, rfl⟩ | ⟨-, rfl⟩ <;> exact hb.put id hp
  | setLayerDetails id details =>
    obtain ⟨old, new, hold, -, hnew, ht, -⟩ := RuleStore.setLayerDetails_ok h
    have hp := hb.of_get? hv.ascending hold
    rw [ht]
    rcases hnew with ⟨-, rfl⟩ | ⟨-, rfl⟩ <;> exact hb.put id hp

/-- The kind of failure a write reports in the store `s`, by the first of its
checks that fails, in the order the store makes them, or none when it
commits. A creation needs a rule without identifier, with a priority not
negative and no layer details without a layer, unless LIMIT no stored rule of
its identifier and grant, and room at the priority it resolves to, which it
lacks when that is taken and the largest stored priority is the top one. A
save checks its identifier, priority and payload, that its rule is stored,
the duplicates among the other rules, and room at a changed priority, which
it lacks when another rule holds it and another the top. A shift needs a
positive offset and no moved priority past the top; the other writes need
their rules stored, and a setter a rule its payload fits. -/
def refusal : RuleWrite → RuleStore → Option String
  | .create r pos, s =>
    (refuseWhen r.id.isSome "Validation").or <|
    (refuseWhen (r.priority < 0) "Validation").or <|
    (refuseWhen (r.access.layerDetails.isSome ∧ r.ident.layer.isNone) "Validation").or <|
    (refuseWhen (r.grant ≠ .limit ∧ ∃ x ∈ s.table.values, x.identityKey = r.identityKey) "Conflict").or <|
    refuseWhen ((∃ x ∈ s.table.values, x.priority = s.table.resolve r.priority pos) ∧
      (s.table.values.map (·.priority)).max? = some Priority.top) "Validation"
  | .save r, s =>
    match r.id with
    | none => some "Validation"
    | some id =>
      (refuseWhen (r.priority < 0) "Validation").or <|
      (refuseWhen (r.access.layerDetails.isSome ∧ r.ident.layer.isNone) "Validation").or <|
      match s.findById id with
      | none => some "NotFound"
      | some old =>
        (refuseWhen (r.grant ≠ .limit ∧ ∃ x ∈ others id s.table, x.identityKey = r.identityKey)
          "Conflict").or <|
        refuseWhen (old.priority ≠ r.priority ∧ (∃ x ∈ others id s.table, x.priority = r.priority) ∧
          ∃ x ∈ others id s.table, x.priority = Priority.top) "Validation"
  | .delete _, _ => none
  | .shift start offset, s =>
    (refuseWhen (offset ≤ 0) "Validation").or <|
    refuseWhen (∃ x ∈ s.table.values, start ≤ x.priority ∧ Priority.top < x.priority + offset) "Validation"
  | .swap id₁ id₂, s =>
    (refuseWhen (s.findById id₁ = none) "NotFound").or (refuseWhen (s.findById id₂ = none) "NotFound")
  | .setAllowedStyles id _, s =>
    match s.findById id with
    | none => some "NotFound"
    | some r =>
      (refuseWhen r.ident.layer.isNone "Validation").or
        (refuseWhen r.access.layerDetails.isNone "Validation")
  | .setLimits id limits, s =>
    match s.findById id with
    | none => some "NotFound"
    | some r => refuseWhen (r.grant ≠ .limit ∧ limits.isSome) "Validation"
  | .setLayerDetails id details, s =>
    match s.findById id with
    | none => some "NotFound"
    | some r =>
      (refuseWhen (details.isSome ∧ r.ident.layer.isNone) "Validation").or
        (refuseWhen (r.grant ≠ .allow ∧ details.isSome) "Validation")

theorem bounded_step (hv : s.table.Valid) (hb : s.table.Bounded) (hw : w.InRange) :
    (w.step s).table.Bounded := by
  cases h : w.apply s with
  | ok c =>
    rw [step_of_ok h]
    exact bounded_apply hv hb hw h
  | error e =>
    rw [step_of_error h]
    exact hb

end RuleWrite

namespace RuleStore

theorem bounded_foldl {s : RuleStore} (hv : s.table.Valid) (hb : s.table.Bounded) {ws : List RuleWrite}
    (hws : ∀ w ∈ ws, w.InRange) : (ws.foldl (fun s w => w.step s) s).table.Bounded := by
  induction ws generalizing s with
  | nil => exact hb
  | cons w ws ih =>
    exact ih (RuleWrite.valid_step hv w).1 (RuleWrite.bounded_step hv hb (hws w List.mem_cons_self))
      fun w hw => hws w (List.mem_cons_of_mem _ hw)

/-- Every store a run of writes carrying priorities that fit reaches has
priorities that fit. -/
theorem bounded_run {ws : List RuleWrite} (hws : ∀ w ∈ ws, w.InRange) : (run ws).table.Bounded :=
  bounded_foldl valid_empty (fun _ h => nomatch h) hws

variable {s : RuleStore}

/-- A creation fails for the reason `refusal` gives: the duplicate and room
checks, read on the stored rules. -/
theorem create_failureKind (hv : s.table.Valid) (hb : s.table.Bounded) (r : Rule) (pos : InsertPosition) :
    failureKind (s.create r pos) = (RuleWrite.create r pos).refusal s := by
  simp only [create, RuleWrite.refusal]
  split
  · rename_i hid
    rw [refuseWhen_pos hid, Option.some_or]
    rfl
  · rename_i hid
    rw [failureKind_seq, failureKind_seq, failureKind_seq, failureKind_bind_ok _ fun _ => rfl,
      checkPriority_kind, checkPayload_kind, checkDuplicates_kind, makeRoom_kind_bounded hv hb]
    have hdup : (r.grant ≠ .limit ∧ ∃ e ∈ s.table.entries, some e.1 ≠ none ∧
        e.2.identityKey = r.identityKey) ↔
        (r.grant ≠ .limit ∧ ∃ x ∈ s.table.values, x.identityKey = r.identityKey) :=
      and_congr_right fun _ => exists_entry_none (·.identityKey = r.identityKey) s.table
    have hroom : ((∃ e ∈ s.table.entries, some e.1 ≠ none ∧ priority e.2 = s.table.resolve r.priority pos) ∧
        ∃ e ∈ s.table.entries, some e.1 ≠ none ∧ priority e.2 = Priority.top) ↔
        ((∃ x ∈ s.table.values, x.priority = s.table.resolve r.priority pos) ∧
          (s.table.values.map (·.priority)).max? = some Priority.top) :=
      and_congr (exists_entry_none (priority · = _) s.table)
        ((exists_entry_none (priority · = Priority.top) s.table).trans hb.max?_eq_top.symm)
    rw [refuseWhen_congr hdup, refuseWhen_congr hroom, refuseWhen_neg hid, Option.none_or]

/-- A save fails for the reason `refusal` gives; a changed priority needs room
among the other rules. -/
theorem save_failureKind (hv : s.table.Valid) (hb : s.table.Bounded) (r : Rule) :
    failureKind (s.save r) = (RuleWrite.save r).refusal s := by
  cases hid : r.id with
  | none =>
    simp only [save, RuleWrite.refusal, hid]
    rfl
  | some id =>
    simp only [save, RuleWrite.refusal, hid]
    rw [failureKind_seq, failureKind_seq, checkPriority_kind, checkPayload_kind]
    refine or_refuseWhen_congr fun _ => or_refuseWhen_congr fun _ => ?_
    cases hfind : s.findById id with
    | none =>
      rw [get_of_findById_none hfind]
      rfl
    | some old =>
      rw [get_ok.mpr hfind, failureKind_ok_bind, failureKind_seq, checkDuplicates_kind]
      have hdup : (r.grant ≠ .limit ∧ ∃ e ∈ s.table.entries, some e.1 ≠ some id ∧
          e.2.identityKey = r.identityKey) ↔
          (r.grant ≠ .limit ∧ ∃ x ∈ others id s.table, x.identityKey = r.identityKey) :=
        and_congr_right fun _ => exists_entry_some (·.identityKey = r.identityKey) s.table id
      dsimp only
      rw [refuseWhen_congr hdup]
      refine or_refuseWhen_congr fun _ => ?_
      split
      · rename_i hne
        rw [failureKind_bind_ok _ fun _ => rfl, makeRoom_kind_bounded hv hb]
        refine refuseWhen_congr ((and_congr (exists_entry_some (priority · = r.priority) s.table id)
          (exists_entry_some (priority · = Priority.top) s.table id)).trans (and_iff_right hne).symm) _
      · rename_i heq
        rw [refuseWhen_neg fun h => heq h.1]
        rfl

/-- A shift fails for the reason `refusal` gives; a moved priority leaves the
range only past the top. -/
theorem shift_failureKind (hv : s.table.Valid) (start offset : Int) :
    failureKind (s.shift start offset) = (RuleWrite.shift start offset).refusal s := by
  simp only [RuleStore.shift, RuleWrite.refusal]
  split
  · rename_i hoff
    rw [refuseWhen_pos hoff, Option.some_or]
    rfl
  · rename_i hoff
    have hpos : 0 < offset := by omega
    rw [refuseWhen_neg hoff, Option.none_or, failureKind_bind_ok _ ?_, Table.shift_kind]
    · refine refuseWhen_congr ⟨?_, ?_⟩ _
      · rintro ⟨e, he, -, hs, hfit⟩
        exact ⟨e.2, List.mem_map_of_mem he, hs, (Priority.not_fits_iff (hv.nonneg e he) hpos).mp hfit⟩
      · rintro ⟨x, hx, hs, htop⟩
        obtain ⟨e, he, rfl⟩ := List.mem_map.mp hx
        exact ⟨e, he, by simp, hs, (Priority.not_fits_iff (hv.nonneg e he) hpos).mpr htop⟩
    · rintro ⟨t', moved⟩
      cases moved <;> rfl

theorem swap_failureKind (id₁ id₂ : Nat) :
    failureKind (s.swap id₁ id₂) = (RuleWrite.swap id₁ id₂).refusal s := by
  simp only [RuleStore.swap, RuleWrite.refusal]
  cases h₁ : s.findById id₁ with
  | none =>
    rw [get_of_findById_none h₁, refuseWhen_pos rfl, Option.some_or]
    rfl
  | some r₁ =>
    rw [get_ok.mpr h₁, failureKind_ok_bind, refuseWhen_neg (by simp), Option.none_or]
    cases h₂ : s.findById id₂ with
    | none =>
      rw [get_of_findById_none h₂, refuseWhen_pos rfl]
      rfl
    | some r₂ =>
      rw [get_ok.mpr h₂, failureKind_ok_bind, refuseWhen_neg (by simp)]
      rfl

/-- Setting the styles fails for the reason `refusal` gives; only an ALLOW rule
with details has styles to set. -/
theorem setAllowedStyles_failureKind (id : Nat) (styles : List String) :
    failureKind (s.setAllowedStyles id styles) = (RuleWrite.setAllowedStyles id styles).refusal s := by
  simp only [RuleStore.setAllowedStyles, RuleWrite.refusal]
  cases hfind : s.findById id with
  | none =>
    rw [get_of_findById_none hfind]
    rfl
  | some r =>
    rw [get_ok.mpr hfind, failureKind_ok_bind]
    dsimp only
    split
    · rename_i hl
      rw [refuseWhen_pos hl, Option.some_or]
      rfl
    · rename_i hl
      rw [refuseWhen_neg hl, Option.none_or]
      split
      · rename_i d hd
        rw [refuseWhen_neg (by simp [hd, Access.layerDetails])]
        rfl
      · rename_i hd
        rw [refuseWhen_pos ?_]
        · rfl
        · cases ha : r.access with
          | allow d => cases d with
            | none => rfl
            | some d => exact absurd ha (hd d)
          | deny => rfl
          | limit l => rfl

theorem setLimits_failureKind (id : Nat) (limits : Option RuleLimits) :
    failureKind (s.setLimits id limits) = (RuleWrite.setLimits id limits).refusal s := by
  simp only [RuleStore.setLimits, RuleWrite.refusal]
  cases hfind : s.findById id with
  | none =>
    rw [get_of_findById_none hfind]
    rfl
  | some r =>
    rw [get_ok.mpr hfind, failureKind_ok_bind]
    dsimp only
    split
    · rename_i l _ hacc
      rw [refuseWhen_neg (by simp [Rule.grant, hacc, Access.grant])]
      rfl
    · rename_i l hacc _
      have hg : r.grant ≠ .limit := by cases ha : r.access <;> simp_all [Rule.grant, Access.grant]
      rw [refuseWhen_pos ⟨hg, rfl⟩]
      rfl
    · rw [refuseWhen_neg (by simp)]
      rfl

theorem setLayerDetails_failureKind (id : Nat) (details : Option LayerDetails) :
    failureKind (s.setLayerDetails id details) = (RuleWrite.setLayerDetails id details).refusal s := by
  simp only [RuleStore.setLayerDetails, RuleWrite.refusal]
  cases hfind : s.findById id with
  | none =>
    rw [get_of_findById_none hfind]
    rfl
  | some r =>
    rw [get_ok.mpr hfind, failureKind_ok_bind]
    dsimp only
    split
    · rename_i hl
      rw [refuseWhen_pos (by simpa using hl), Option.some_or]
      rfl
    · rename_i hl
      rw [refuseWhen_neg (by simpa using hl), Option.none_or]
      split
      · rename_i d _ hacc
        rw [refuseWhen_neg (by simp [Rule.grant, hacc, Access.grant])]
        rfl
      · rename_i d hacc _
        have hg : r.grant ≠ .allow := by cases ha : r.access <;> simp_all [Rule.grant, Access.grant]
        rw [refuseWhen_pos ⟨hg, rfl⟩]
        rfl
      · rw [refuseWhen_neg (by simp)]
        rfl

end RuleStore

namespace RuleWrite

variable {s : RuleStore}

/-- In a valid, bounded store every write fails exactly as `refusal` says,
with the kind of the first check it fails. -/
theorem failureKind_apply (hv : s.table.Valid) (hb : s.table.Bounded) (w : RuleWrite) :
    failureKind (w.apply s) = w.refusal s := by
  cases w with
  | create r pos => rw [apply, failureKind_map, RuleStore.create_failureKind hv hb]
  | save r => rw [apply, failureKind_map, RuleStore.save_failureKind hv hb]
  | delete id => rfl
  | shift start offset => rw [apply, failureKind_map, RuleStore.shift_failureKind hv]
  | swap id₁ id₂ => exact RuleStore.swap_failureKind id₁ id₂
  | setAllowedStyles id styles => exact RuleStore.setAllowedStyles_failureKind id styles
  | setLimits id limits => exact RuleStore.setLimits_failureKind id limits
  | setLayerDetails id details => exact RuleStore.setLayerDetails_failureKind id details

end RuleWrite

/-! ## Refused writes change nothing -/

/-- In every store a run of writes reaches, each carrying a priority that
fits: a write fails exactly when `RuleWrite.refusal` says, with the kind of
the first check it fails, and a write that fails leaves the store as it was,
its last identifier included, while a service that runs it reports no change
and stays as it was. -/
theorem refused_writes_change_nothing (ws : List RuleWrite) (hws : ∀ w ∈ ws, w.InRange) (w : RuleWrite) :
    failureKind (w.apply (RuleStore.run ws)) = w.refusal (RuleStore.run ws) ∧
      ∀ e, w.apply (RuleStore.run ws) = .error e →
        w.step (RuleStore.run ws) = RuleStore.run ws ∧
          ∀ svc : Service, svc.rules = RuleStore.run ws → svc.writeRules w.apply = (.error e, [], svc) := by
  refine ⟨RuleWrite.failureKind_apply (RuleStore.valid_run ws) (RuleStore.bounded_run hws) w,
    fun e he => ⟨RuleWrite.step_of_error he, ?_⟩⟩
  intro svc hs
  simp only [Service.writeRules, hs, he]

/-- A run that stores an ALLOW rule at the top priority. -/
def RuleStore.topRun : List RuleWrite := [.create { priority := Priority.top, access := .allow none } .fixed]

/-- After `topRun`, a DENY rule asked for at the top priority is refused for
want of room there, and the refusal changes nothing. -/
theorem topRun_refuses_room :
    (∀ w ∈ RuleStore.topRun, w.InRange) ∧
      (RuleWrite.create { priority := Priority.top, access := .deny } .fixed).refusal
          (RuleStore.run RuleStore.topRun) = some "Validation" ∧
      (failureKind ((RuleWrite.create { priority := Priority.top, access := .deny } .fixed).apply
          (RuleStore.run RuleStore.topRun)) =
          (RuleWrite.create { priority := Priority.top, access := .deny } .fixed).refusal
            (RuleStore.run RuleStore.topRun) ∧
        ∀ e, (RuleWrite.create { priority := Priority.top, access := .deny } .fixed).apply
            (RuleStore.run RuleStore.topRun) = .error e →
          (RuleWrite.create { priority := Priority.top, access := .deny } .fixed).step
              (RuleStore.run RuleStore.topRun) = RuleStore.run RuleStore.topRun ∧
            ∀ svc : Service, svc.rules = RuleStore.run RuleStore.topRun →
              svc.writeRules (RuleWrite.create { priority := Priority.top, access := .deny } .fixed).apply =
                (.error e, [], svc)) :=
  have hws : ∀ w ∈ RuleStore.topRun, w.InRange := by
    simp [RuleStore.topRun, RuleWrite.InRange]
  ⟨hws, by decide +kernel, refused_writes_change_nothing RuleStore.topRun hws _⟩

end GeoAccess
