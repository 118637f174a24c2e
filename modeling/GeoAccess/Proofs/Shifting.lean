import GeoAccess.Proofs.Refusals

/-!
# Shifting a suffix of priorities

A shift from `start` by a positive `offset`, one entry `exclude` aside, looks
at the entries in identifier order and computes every new priority before it
moves anything. It is refused, with a validation failure and no table, exactly
when some entry it would move would pass the largest priority
(`Table.shift_of_overflow`); otherwise it moves by `offset` exactly the
entries other than `exclude` at or after `start` and names them, identifiers
ascending (`Table.shift_of_fits`). Each entry ends as `shiftEntry` says.

Room-making at `target` changes nothing when no entry other than `exclude`
holds `target`, and is otherwise the shift from `target` by one
(`Table.makeRoom_of_free`, `Table.makeRoom_of_held`). After either, no entry
other than `exclude` holds the priority freed, and the priorities of those
entries keep their order and stay apart (`Table.shiftEntry_ne`,
`Table.shiftEntry_lt_iff`, `Table.shiftEntry_eq_iff`, and `RoomAt` for the
room made).

* `shift_moves_suffix`: the shift and the room-making together.
-/

namespace GeoAccess

open Prioritized LawfulPrioritized

/-- A failure of kind `Validation` is a validation failure. -/
theorem StoreError.eq_validation_of_kind {e : StoreError} (h : e.kind = "Validation") :
    ∃ msg, e = .validation msg := by
  cases e <;> simp_all [StoreError.kind, StoreError.parts]

/-- A priority at or after a signed 64-bit `start`, moved up by a positive
offset to at most the top, fits. -/
theorem Priority.fits_of_le {start offset p : Int} (hstart : Priority.bottom ≤ start) (hoff : 0 < offset)
    (hp : start ≤ p) (htop : p + offset ≤ Priority.top) : Priority.Fits (p + offset) :=
  ⟨by omega, htop⟩

namespace Table

variable {α : Type} [Prioritized α]

/-- An entry after a shift from `start` by `offset` with `exclude` aside: moved
by `offset` when it is not `exclude` and lies at or after `start`. -/
def shiftEntry (start offset : Int) (exclude : Option Nat) (e : Nat × α) : Nat × α :=
  if some e.1 = exclude then e else (e.1, bump start offset e.2)

theorem shiftEntry_of_ne {start offset : Int} {ex : Option Nat} {e : Nat × α} (he : some e.1 ≠ ex) :
    shiftEntry start offset ex e = (e.1, bump start offset e.2) :=
  if_neg he

/-- A shift with an entry that would pass the top is refused as invalid. -/
theorem shift_of_overflow (t : Table α) {start offset : Int} {ex : Option Nat}
    (h : ∃ e ∈ t.entries, some e.1 ≠ ex ∧ start ≤ priority e.2 ∧ Priority.top < priority e.2 + offset) :
    ∃ msg, t.shift start offset ex = .error (.validation msg) := by
  have hkind := shift_kind t start offset ex
  obtain ⟨e, he, hex, hs, htop⟩ := h
  rw [refuseWhen_pos ⟨e, he, hex, hs, fun hf => Int.not_lt.mpr hf.2 htop⟩] at hkind
  cases hr : t.shift start offset ex with
  | ok r => simp [hr] at hkind
  | error err =>
    rw [hr, failureKind_error, Option.some.injEq] at hkind
    obtain ⟨msg, rfl⟩ := StoreError.eq_validation_of_kind hkind
    exact ⟨msg, rfl⟩

/-- A shift in which every moved priority stays at most the top moves exactly
the entries other than `exclude` at or after `start`, by `offset`, and names
them in identifier order. -/
theorem shift_of_fits {t : Table α} (ht : Ascending t.entries) {start offset : Int} {ex : Option Nat}
    (hstart : Priority.bottom ≤ start) (hoff : 0 < offset)
    (h : ∀ e ∈ t.entries, some e.1 ≠ ex → start ≤ priority e.2 → priority e.2 + offset ≤ Priority.top) :
    t.shift start offset ex =
      .ok ({ t with entries := t.entries.map (shiftEntry start offset ex) },
        (t.entries.filter fun e => some e.1 ≠ ex ∧ start ≤ priority e.2).map (·.1)) := by
  cases hr : t.shift start offset ex with
  | error err =>
    have hkind := shift_kind t start offset ex
    rw [hr, failureKind_error, refuseWhen_neg] at hkind
    · cases hkind
    · rintro ⟨e, he, hex, hs, hfit⟩
      exact hfit (Priority.fits_of_le hstart hoff hs (h e he hex hs))
  | ok r =>
    obtain ⟨t', moved⟩ := r
    obtain ⟨hid, hent, hmoved, -⟩ := shift_ok ht hr
    obtain ⟨l, es⟩ := t'
    simp only at hid hent
    subst hid hent hmoved
    congr 3
    refine List.map_congr_left fun e _ => ?_
    by_cases hex : some e.1 = ex <;> by_cases hs : start ≤ priority e.2 <;>
      simp [newPriority, shiftEntry, bump, hex, hs]

/-- The identifiers a shift names ascend, as the table's do. -/
theorem moved_ascending {t : Table α} (ht : Ascending t.entries) (start : Int) (ex : Option Nat) :
    ((t.entries.filter fun e => some e.1 ≠ ex ∧ start ≤ priority e.2).map (·.1)).Pairwise (· < ·) :=
  ht.sublist (List.filter_sublist.map _)

/-- Room-making where no entry other than `exclude` holds the target changes
nothing. -/
theorem makeRoom_of_free (t : Table α) {target : Int} {ex : Option Nat}
    (h : ∀ e ∈ t.entries, some e.1 ≠ ex → priority e.2 ≠ target) : t.makeRoom target ex = .ok t := by
  refine if_neg fun hany => ?_
  obtain ⟨e, he, hx⟩ := List.any_eq_true.mp hany
  simp only [decide_eq_true_eq] at hx
  exact h e he hx.1 hx.2

/-- Room-making where another entry holds the target shifts from the target
by one. -/
theorem makeRoom_of_held (t : Table α) {target : Int} {ex : Option Nat}
    (h : ∃ e ∈ t.entries, some e.1 ≠ ex ∧ priority e.2 = target) :
    t.makeRoom target ex = (t.shift target 1 ex).map (·.1) := by
  obtain ⟨e, he, hx, hp⟩ := h
  exact if_pos (List.any_eq_true.mpr ⟨e, he, by simp [hx, hp]⟩)

variable [LawfulPrioritized α]

/-- No entry other than `exclude` ends at `start`. -/
theorem shiftEntry_ne {start offset : Int} (hoff : 0 < offset) {ex : Option Nat} {e : Nat × α}
    (he : some e.1 ≠ ex) : priority (shiftEntry start offset ex e).2 ≠ start := by
  rw [shiftEntry_of_ne he]
  exact (RoomAt.bump hoff [e.2]).priority_ne List.mem_cons_self

/-- The priority an entry other than `exclude` ends with: moved by `offset`
when at or after `start`. -/
theorem priority_shiftEntry {start offset : Int} {ex : Option Nat} {e : Nat × α} (he : some e.1 ≠ ex) :
    priority (shiftEntry start offset ex e).2 =
      if start ≤ priority e.2 then priority e.2 + offset else priority e.2 := by
  rw [shiftEntry_of_ne he, priority_bump]

/-- The entries other than `exclude` keep the order of their priorities. -/
theorem shiftEntry_lt_iff {start offset : Int} (hoff : 0 < offset) {ex : Option Nat} {e₁ e₂ : Nat × α}
    (h₁ : some e₁.1 ≠ ex) (h₂ : some e₂.1 ≠ ex) :
    priority e₁.2 < priority e₂.2 ↔
      priority (shiftEntry start offset ex e₁).2 < priority (shiftEntry start offset ex e₂).2 := by
  rw [priority_shiftEntry h₁, priority_shiftEntry h₂]
  split <;> split <;> omega

/-- Two entries other than `exclude` hold one priority after the shift exactly
when they held one before, so priorities apart stay apart. -/
theorem shiftEntry_eq_iff {start offset : Int} (hoff : 0 < offset) {ex : Option Nat} {e₁ e₂ : Nat × α}
    (h₁ : some e₁.1 ≠ ex) (h₂ : some e₂.1 ≠ ex) :
    priority e₁.2 = priority e₂.2 ↔
      priority (shiftEntry start offset ex e₁).2 = priority (shiftEntry start offset ex e₂).2 := by
  rw [priority_shiftEntry h₁, priority_shiftEntry h₂]
  split <;> split <;> omega

/-- After room-making, no entry other than `exclude` holds the target. -/
theorem makeRoom_frees {t t' : Table α} (ht : Ascending t.entries) {target : Int} {ex : Option Nat}
    (h : t.makeRoom target ex = .ok t') : ∀ e ∈ t'.entries, some e.1 ≠ ex → priority e.2 ≠ target := by
  obtain ⟨g, rfl, hg, -⟩ := makeRoom_ok ht h
  simp only [List.mem_map]
  rintro _ ⟨e, he, rfl⟩ hex
  have hex' : some e.1 ≠ ex := by split at hex <;> simp_all
  simp only [hex', if_false]
  exact hg.priority_ne (List.mem_map_of_mem (List.mem_filter.mpr ⟨he, by simpa using hex'⟩))

/-- The suffix shift and room-making. For a table whose identifiers ascend, a
`start` that is a signed 64-bit priority and a positive `offset`: the shift is
refused as invalid when an entry other than `exclude` at or after `start`
would pass the top; when none would, it moves exactly those entries by
`offset` and names them in identifier order. No entry other than `exclude`
then holds `start`, and the priorities of those entries keep their order and
stay apart. Room-making at `target` changes nothing when no entry other than
`exclude` holds it, is the shift from `target` by one when one does, and
leaves no entry other than `exclude` there. -/
theorem shift_moves_suffix {t : Table α} (ht : Ascending t.entries) (start offset : Int)
    (hstart : Priority.bottom ≤ start) (hoff : 0 < offset) (ex : Option Nat) (target : Int) :
    ((∃ e ∈ t.entries, some e.1 ≠ ex ∧ start ≤ priority e.2 ∧ Priority.top < priority e.2 + offset) →
      ∃ msg, t.shift start offset ex = .error (.validation msg)) ∧
    ((∀ e ∈ t.entries, some e.1 ≠ ex → start ≤ priority e.2 → priority e.2 + offset ≤ Priority.top) →
      t.shift start offset ex =
        .ok ({ t with entries := t.entries.map (shiftEntry start offset ex) },
          (t.entries.filter fun e => some e.1 ≠ ex ∧ start ≤ priority e.2).map (·.1))) ∧
    ((t.entries.filter fun e => some e.1 ≠ ex ∧ start ≤ priority e.2).map (·.1)).Pairwise (· < ·) ∧
    (∀ e ∈ t.entries, some e.1 ≠ ex → priority (shiftEntry start offset ex e).2 ≠ start) ∧
    (∀ e₁ ∈ t.entries, ∀ e₂ ∈ t.entries, some e₁.1 ≠ ex → some e₂.1 ≠ ex →
      (priority e₁.2 < priority e₂.2 ↔
        priority (shiftEntry start offset ex e₁).2 < priority (shiftEntry start offset ex e₂).2) ∧
      (priority e₁.2 = priority e₂.2 ↔
        priority (shiftEntry start offset ex e₁).2 = priority (shiftEntry start offset ex e₂).2)) ∧
    ((∀ e ∈ t.entries, some e.1 ≠ ex → priority e.2 ≠ target) → t.makeRoom target ex = .ok t) ∧
    ((∃ e ∈ t.entries, some e.1 ≠ ex ∧ priority e.2 = target) →
      t.makeRoom target ex = (t.shift target 1 ex).map (·.1)) ∧
    (∀ t', t.makeRoom target ex = .ok t' → ∀ e ∈ t'.entries, some e.1 ≠ ex → priority e.2 ≠ target) :=
  ⟨shift_of_overflow t, shift_of_fits ht hstart hoff, moved_ascending ht start ex,
    fun _ _ he => shiftEntry_ne hoff he,
    fun _ _ _ _ h₁ h₂ => ⟨shiftEntry_lt_iff hoff h₁ h₂, shiftEntry_eq_iff hoff h₁ h₂⟩,
    makeRoom_of_free t, makeRoom_of_held t, fun _ h => makeRoom_frees ht h⟩

end Table

/-- Three rules at priorities 1, 5 and 9, under the identifiers 0, 1 and 2. -/
def spacedRules : Table Rule :=
  { lastId := 2
    entries := [(0, (Rule.ofGrant .allow).withPriority 1), (1, (Rule.ofGrant .allow).withPriority 5),
      (2, (Rule.ofGrant .allow).withPriority 9)] }

/-- Shifting `spacedRules` from 5 by 10 moves the rules 1 and 2, to 15 and 19;
room at 3 is free already. -/
theorem spacedRules_shift_from_five :
    Table.Ascending spacedRules.entries ∧
      spacedRules.shift 5 10 none =
        .ok ({ spacedRules with entries := spacedRules.entries.map (Table.shiftEntry 5 10 none) }, [1, 2]) ∧
      (spacedRules.entries.map (Table.shiftEntry 5 10 none)).map (·.2.priority) = [1, 15, 19] ∧
      spacedRules.makeRoom 3 none = .ok spacedRules := by
  have ht : Table.Ascending spacedRules.entries := by
    unfold Table.Ascending
    decide
  obtain ⟨-, hfit, -, -, -, hfree, -, -⟩ := Table.shift_moves_suffix ht 5 10 (by decide) (by decide) none 3
  refine ⟨ht, ?_, by decide, hfree (by decide)⟩
  rw [hfit (by decide)]
  rfl

end GeoAccess
