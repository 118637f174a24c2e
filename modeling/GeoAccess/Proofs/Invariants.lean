import GeoAccess.Proofs.Writes

/-!
# What every run of writes keeps

Whatever sequence of writes reaches a store from the empty one, each write
succeeding or failing, its table stays valid (`RuleWrite.valid_step`,
`RuleStore.valid_run`): identifiers ascend and each rule carries its own,
priorities are apart and none is negative. The identifiers that creations
hand out ascend along the run, those of rules deleted since included
(`RuleStore.issuedAlong_ascending`), and a lookup by priority answers the one
rule there, never a conflict (`RuleStore.findOneByPriority_eq`). The same
holds of admin rules, and `run_priorities_apart_ids_ascending` gathers it for
both stores.
-/

namespace GeoAccess

open Prioritized LawfulPrioritized Table

/-! ## Lookups in a valid table -/

namespace Table

variable {α : Type} [Prioritized α] [LawfulPrioritized α] {t : Table α}

/-- A stored entry carries the identifier it is stored under, and a priority
that is not negative. -/
theorem Valid.get?_keyed (hv : t.Valid) {k : Nat} {a : α} (h : t.get? k = some a) :
    idOf a = some k ∧ 0 ≤ priority a := by
  have he := (get?_eq_some_iff hv.ascending).mp h
  exact ⟨hv.keyed _ he, hv.nonneg _ he⟩

/-- Two stored entries with one priority are stored under one identifier. -/
theorem Valid.eq_of_get?_priority (hv : t.Valid) {k₁ k₂ : Nat} {a₁ a₂ : α} (h₁ : t.get? k₁ = some a₁)
    (h₂ : t.get? k₂ = some a₂) (hp : priority a₁ = priority a₂) : k₁ = k₂ :=
  (Prod.mk.inj (hv.distinct _ ((get?_eq_some_iff hv.ascending).mp h₁) _
    ((get?_eq_some_iff hv.ascending).mp h₂) hp)).1

/-- At most one entry holds a priority. -/
theorem Valid.atPriority_length_le (hv : t.Valid) (p : Int) : (t.atPriority p).length ≤ 1 := by
  have hpw : (t.atPriority p).Pairwise fun a b => priority a ≠ priority b :=
    hv.values_pairwise.filter _
  have hat : ∀ a ∈ t.atPriority p, priority a = p := fun a ha => by
    simpa using (List.mem_filter.mp ha).2
  rcases hl : t.atPriority p with _ | ⟨a, _ | ⟨b, rest⟩⟩
  · simp
  · simp
  · rw [hl] at hpw hat
    exact absurd ((hat a (by simp)).trans (hat b (by simp)).symm)
      (List.rel_of_pairwise_cons hpw (by simp))

end Table

/-! ## The rule store -/

/-- A lookup by priority in a valid store answers the one rule there, if any. -/
theorem RuleStore.findOneByPriority_eq {s : RuleStore} (hv : s.table.Valid) (p : Int) :
    s.findOneByPriority p = .ok (s.table.atPriority p).head? := by
  have hlen := hv.atPriority_length_le p
  unfold findOneByPriority
  rcases hl : s.table.atPriority p with _ | ⟨a, _ | ⟨b, rest⟩⟩
  · rfl
  · rfl
  · rw [hl] at hlen
    simp at hlen

namespace RuleWrite

variable {s : RuleStore} {w : RuleWrite}

/-- A successful write leaves a valid table and never lowers the last
identifier handed out. -/
theorem valid_apply (hv : s.table.Valid) {c : Committed RuleStore Unit} (h : w.apply s = .ok c) :
    c.store.table.Valid ∧ s.table.lastId ≤ c.store.table.lastId := by
  cases w with
  | create r pos =>
    obtain ⟨c, hc, rfl⟩ := map_eq_ok.mp h
    obtain ⟨-, hp, -, -, hans, -, g, hg, -, ht⟩ := RuleStore.create_ok hv hc
    simp only [Committed.drop, ht]
    exact ⟨hv.insert hg (resolve_nonneg hv hp pos) (by simp [hans]) (by simp [hans]), Nat.le_succ _⟩
  | save r =>
    obtain ⟨c, hc, rfl⟩ := map_eq_ok.mp h
    obtain ⟨id, old, hid, hp, -, -, -, -, -, g, hg, ht⟩ := RuleStore.save_ok hv hc
    simp only [Committed.drop, ht]
    exact ⟨hv.replace hg hp (by simpa using hid), Nat.le_refl _⟩
  | delete id =>
    cases h
    simp only [Committed.drop, RuleStore.delete]
    split
    · exact ⟨hv.erase id, Nat.le_refl _⟩
    · exact ⟨hv, Nat.le_refl _⟩
  | shift start offset =>
    obtain ⟨c, hc, rfl⟩ := map_eq_ok.mp h
    obtain ⟨hoff, ht, -⟩ := RuleStore.shift_ok hv hc
    simp only [Committed.drop, ht]
    exact ⟨hv.map_room (RoomAt.bump hoff _), Nat.le_refl _⟩
  | swap id₁ id₂ =>
    obtain ⟨r₁, r₂, h₁, h₂, ht, -⟩ := RuleStore.swap_ok h
    rw [ht]
    exact ⟨hv.swap ((get?_eq_some_iff hv.ascending).mp h₁) ((get?_eq_some_iff hv.ascending).mp h₂),
      Nat.le_refl _⟩
  | setAllowedStyles id styles =>
    obtain ⟨old, d, hold, -, -, ht, -⟩ := RuleStore.setAllowedStyles_ok h
    rw [ht]
    exact ⟨hv.update hold rfl rfl, Nat.le_refl _⟩
  | setLimits id limits =>
    obtain ⟨old, new, hold, hnew, ht, -⟩ := RuleStore.setLimits_ok h
    rw [ht]
    rcases hnew with ⟨-, rfl⟩ | ⟨-, rfl⟩ <;> exact ⟨hv.update hold rfl rfl, Nat.le_refl _⟩
  | setLayerDetails id details =>
    obtain ⟨old, new, hold, -, hnew, ht, -⟩ := RuleStore.setLayerDetails_ok h
    rw [ht]
    rcases hnew with ⟨-, rfl⟩ | ⟨-, rfl⟩ <;> exact ⟨hv.update hold rfl rfl, Nat.le_refl _⟩

/-- Any write, succeeding or failing, leaves a valid table and never lowers
the last identifier handed out. -/
theorem valid_step (hv : s.table.Valid) (w : RuleWrite) :
    (w.step s).table.Valid ∧ s.table.lastId ≤ (w.step s).table.lastId := by
  cases h : w.apply s with
  | ok c =>
    rw [step_of_ok h]
    exact valid_apply hv h
  | error e =>
    rw [step_of_error h]
    exact ⟨hv, Nat.le_refl _⟩

/-- The identifier a creation hands out is the one after the last, and
becomes the last. -/
theorem issued_spec (hv : s.table.Valid) {i : Nat} (h : w.issued s = some i) :
    i = s.table.lastId + 1 ∧ (w.step s).table.lastId = i := by
  cases w with
  | create r pos =>
    simp only [issued] at h
    split at h
    · rename_i c hc
      obtain ⟨-, -, -, -, hans, -, _, -, -, ht⟩ := RuleStore.create_ok hv hc
      have hi : s.table.lastId + 1 = i := by simpa [hans] using h
      rw [step_of_ok (c := c.drop) (by simp [apply, hc, Except.map])]
      simp only [Committed.drop, ht]
      exact ⟨hi.symm, hi⟩
    · cases h
  | _ => cases h

end RuleWrite

namespace RuleStore

theorem valid_foldl {s : RuleStore} (hv : s.table.Valid) (ws : List RuleWrite) :
    (ws.foldl (fun s w => w.step s) s).table.Valid := by
  induction ws generalizing s with
  | nil => exact hv
  | cons w ws ih => exact ih (RuleWrite.valid_step hv w).1

/-- Every store a run of writes reaches has a valid table. -/
theorem valid_run (ws : List RuleWrite) : (run ws).table.Valid :=
  valid_foldl valid_empty ws

/-- Along any run the identifiers handed out lie above the last one before it,
and ascend. -/
theorem issuedAlong_ascending {s : RuleStore} (hv : s.table.Valid) (ws : List RuleWrite) :
    (∀ i ∈ s.issuedAlong ws, s.table.lastId < i) ∧ (s.issuedAlong ws).Pairwise (· < ·) := by
  induction ws generalizing s with
  | nil => simp [issuedAlong]
  | cons w ws ih =>
    obtain ⟨hv', hle⟩ := RuleWrite.valid_step hv w
    obtain ⟨hgt, hpw⟩ := ih hv'
    have hnow : ∀ i ∈ (w.issued s).toList, s.table.lastId < i ∧ i ≤ (w.step s).table.lastId := by
      intro i hi
      obtain ⟨rfl, hl⟩ := RuleWrite.issued_spec hv (Option.mem_toList.mp hi)
      omega
    simp only [issuedAlong, List.mem_append, List.pairwise_append]
    refine ⟨?_, ?_, hpw, ?_⟩
    · rintro i (hi | hi)
      · exact (hnow i hi).1
      · exact Nat.lt_of_le_of_lt hle (hgt i hi)
    · cases w.issued s <;> simp
    · intro i hi j hj
      exact Nat.lt_of_le_of_lt (hnow i hi).2 (hgt j hj)

end RuleStore

/-! ## The admin rule store -/

/-- A lookup by priority in a valid store answers the one admin rule there, if
any. -/
theorem AdminRuleStore.findOneByPriority_eq {s : AdminRuleStore} (hv : s.table.Valid) (p : Int) :
    s.findOneByPriority p = .ok (s.table.atPriority p).head? := by
  have hlen := hv.atPriority_length_le p
  unfold findOneByPriority
  rcases hl : s.table.atPriority p with _ | ⟨a, _ | ⟨b, rest⟩⟩
  · rfl
  · rfl
  · rw [hl] at hlen
    simp at hlen

namespace AdminWrite

variable {s : AdminRuleStore} {w : AdminWrite}

/-- A successful write leaves a valid table and never lowers the last
identifier handed out. -/
theorem valid_apply (hv : s.table.Valid) {c : Committed AdminRuleStore Unit} (h : w.apply s = .ok c) :
    c.store.table.Valid ∧ s.table.lastId ≤ c.store.table.lastId := by
  cases w with
  | create r pos =>
    obtain ⟨c, hc, rfl⟩ := map_eq_ok.mp h
    obtain ⟨-, hp, -, hans, -, g, hg, -, ht⟩ := AdminRuleStore.create_ok hv hc
    simp only [Committed.drop, ht]
    exact ⟨hv.insert hg (resolve_nonneg hv hp pos) (by simp [hans]) (by simp [hans]), Nat.le_succ _⟩
  | save r =>
    obtain ⟨c, hc, rfl⟩ := map_eq_ok.mp h
    obtain ⟨id, old, hid, hp, -, -, -, -, g, hg, ht⟩ := AdminRuleStore.save_ok hv hc
    simp only [Committed.drop, ht]
    exact ⟨hv.replace hg hp (by simpa using hid), Nat.le_refl _⟩
  | delete id =>
    cases h
    simp only [Committed.drop, AdminRuleStore.delete]
    split
    · exact ⟨hv.erase id, Nat.le_refl _⟩
    · exact ⟨hv, Nat.le_refl _⟩
  | shift start offset =>
    obtain ⟨c, hc, rfl⟩ := map_eq_ok.mp h
    obtain ⟨hoff, ht, -⟩ := AdminRuleStore.shift_ok hv hc
    simp only [Committed.drop, ht]
    exact ⟨hv.map_room (RoomAt.bump hoff _), Nat.le_refl _⟩
  | swap id₁ id₂ =>
    obtain ⟨r₁, r₂, h₁, h₂, ht, -⟩ := AdminRuleStore.swap_ok h
    rw [ht]
    exact ⟨hv.swap ((get?_eq_some_iff hv.ascending).mp h₁) ((get?_eq_some_iff hv.ascending).mp h₂),
      Nat.le_refl _⟩

/-- Any write, succeeding or failing, leaves a valid table and never lowers
the last identifier handed out. -/
theorem valid_step (hv : s.table.Valid) (w : AdminWrite) :
    (w.step s).table.Valid ∧ s.table.lastId ≤ (w.step s).table.lastId := by
  cases h : w.apply s with
  | ok c =>
    rw [step_of_ok h]
    exact valid_apply hv h
  | error e =>
    rw [step_of_error h]
    exact ⟨hv, Nat.le_refl _⟩

/-- The identifier a creation hands out is the one after the last, and
becomes the last. -/
theorem issued_spec (hv : s.table.Valid) {i : Nat} (h : w.issued s = some i) :
    i = s.table.lastId + 1 ∧ (w.step s).table.lastId = i := by
  cases w with
  | create r pos =>
    simp only [issued] at h
    split at h
    · rename_i c hc
      obtain ⟨-, -, -, hans, -, _, -, -, ht⟩ := AdminRuleStore.create_ok hv hc
      have hi : s.table.lastId + 1 = i := by simpa [hans] using h
      rw [step_of_ok (c := c.drop) (by simp [apply, hc, Except.map])]
      simp only [Committed.drop, ht]
      exact ⟨hi.symm, hi⟩
    · cases h
  | _ => cases h

end AdminWrite

namespace AdminRuleStore

theorem valid_foldl {s : AdminRuleStore} (hv : s.table.Valid) (ws : List AdminWrite) :
    (ws.foldl (fun s w => w.step s) s).table.Valid := by
  induction ws generalizing s with
  | nil => exact hv
  | cons w ws ih => exact ih (AdminWrite.valid_step hv w).1

/-- Every store a run of writes reaches has a valid table. -/
theorem valid_run (ws : List AdminWrite) : (run ws).table.Valid :=
  valid_foldl valid_empty ws

/-- Along any run the identifiers handed out lie above the last one before it,
and ascend. -/
theorem issuedAlong_ascending {s : AdminRuleStore} (hv : s.table.Valid) (ws : List AdminWrite) :
    (∀ i ∈ s.issuedAlong ws, s.table.lastId < i) ∧ (s.issuedAlong ws).Pairwise (· < ·) := by
  induction ws generalizing s with
  | nil => simp [issuedAlong]
  | cons w ws ih =>
    obtain ⟨hv', hle⟩ := AdminWrite.valid_step hv w
    obtain ⟨hgt, hpw⟩ := ih hv'
    have hnow : ∀ i ∈ (w.issued s).toList, s.table.lastId < i ∧ i ≤ (w.step s).table.lastId := by
      intro i hi
      obtain ⟨rfl, hl⟩ := AdminWrite.issued_spec hv (Option.mem_toList.mp hi)
      omega
    simp only [issuedAlong, List.mem_append, List.pairwise_append]
    refine ⟨?_, ?_, hpw, ?_⟩
    · rintro i (hi | hi)
      · exact (hnow i hi).1
      · exact Nat.lt_of_le_of_lt hle (hgt i hi)
    · cases w.issued s <;> simp
    · intro i hi j hj
      exact Nat.lt_of_le_of_lt (hnow i hi).2 (hgt j hj)

end AdminRuleStore

/-! ## Both stores -/

/-- Every store a run of writes reaches from the empty one, of rules and of
admin rules alike: no two stored rules share a priority, none is negative,
each carries the identifier it is stored under, the identifiers creations
handed out ascend, those of rules deleted since included, and a lookup by
priority never reports a conflict. -/
theorem run_priorities_apart_ids_ascending (ws : List RuleWrite) (vs : List AdminWrite) :
    (let s := RuleStore.run ws
     (∀ k₁ k₂ r₁ r₂, s.findById k₁ = some r₁ → s.findById k₂ = some r₂ →
        r₁.priority = r₂.priority → k₁ = k₂) ∧
      (∀ k r, s.findById k = some r → 0 ≤ r.priority ∧ r.id = some k) ∧
      (({} : RuleStore).issuedAlong ws).Pairwise (· < ·) ∧
      ∀ p, ∃ o, s.findOneByPriority p = .ok o) ∧
    (let s := AdminRuleStore.run vs
     (∀ k₁ k₂ r₁ r₂, s.findById k₁ = some r₁ → s.findById k₂ = some r₂ →
        r₁.priority = r₂.priority → k₁ = k₂) ∧
      (∀ k r, s.findById k = some r → 0 ≤ r.priority ∧ r.id = some k) ∧
      (({} : AdminRuleStore).issuedAlong vs).Pairwise (· < ·) ∧
      ∀ p, ∃ o, s.findOneByPriority p = .ok o) := by
  have hv := RuleStore.valid_run ws
  have hw := AdminRuleStore.valid_run vs
  refine ⟨⟨fun _ _ _ _ h₁ h₂ hp => hv.eq_of_get?_priority h₁ h₂ hp, fun _ _ h => ?_,
      (RuleStore.issuedAlong_ascending valid_empty ws).2,
      fun p => ⟨_, RuleStore.findOneByPriority_eq hv p⟩⟩,
    ⟨fun _ _ _ _ h₁ h₂ hp => hw.eq_of_get?_priority h₁ h₂ hp, fun _ _ h => ?_,
      (AdminRuleStore.issuedAlong_ascending valid_empty vs).2,
      fun p => ⟨_, AdminRuleStore.findOneByPriority_eq hw p⟩⟩⟩
  · obtain ⟨hid, hp⟩ := hv.get?_keyed h
    exact ⟨hp, hid⟩
  · obtain ⟨hid, hp⟩ := hw.get?_keyed h
    exact ⟨hp, hid⟩

end GeoAccess
