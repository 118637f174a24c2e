import GeoAccess.Proofs.Table
import GeoAccess.Store.Rules
import GeoAccess.Store.AdminRules

/-!
# What each store write does

One lemma per write of each store says everything a successful run of it
implies: the checks it passed, the table it leaves in the shape the table
theory describes (`Table.insert_eq`, `Table.replace_eq`, `Table.shift_eq`,
`Table.swap_eq`), its answer and the change it announces. Later proofs cite
these and never unfold a write.

The writes are also data: `RuleWrite` and `AdminWrite` name each write with
its arguments, `apply` runs one, `step` keeps the store when it fails, and
`RuleStore.run` / `AdminRuleStore.run` run a sequence of them from the empty
store. `issuedAlong` lists the identifiers the creations of a run hand out.
-/

namespace GeoAccess

open Prioritized LawfulPrioritized Table

theorem bind_eq_ok {ε α β : Type} {x : Except ε α} {f : α → Except ε β} {b : β} :
    x >>= f = .ok b ↔ ∃ a, x = .ok a ∧ f a = .ok b := by
  cases x <;> simp [bind, Except.bind]

theorem map_eq_ok {ε α β : Type} {f : α → β} {x : Except ε α} {b : β} :
    x.map f = .ok b ↔ ∃ a, x = .ok a ∧ f a = b := by
  cases x <;> simp [Except.map]

instance : LawfulPrioritized Rule where
  idOf := Rule.id
  priority_setPriority _ _ := rfl
  setPriority_setPriority _ _ _ := rfl
  setPriority_priority _ := rfl
  idOf_setPriority _ _ := rfl

instance : LawfulPrioritized AdminRule where
  idOf := AdminRule.id
  priority_setPriority _ _ := rfl
  setPriority_setPriority _ _ _ := rfl
  setPriority_priority _ := rfl
  idOf_setPriority _ _ := rfl

@[simp] theorem Rule.priority_eq (r : Rule) : Prioritized.priority r = r.priority := rfl
@[simp] theorem Rule.setPriority_eq (r : Rule) (p : Int) : setPriority r p = { r with priority := p } := rfl
@[simp] theorem Rule.idOf_eq (r : Rule) : idOf r = r.id := rfl
@[simp] theorem AdminRule.priority_eq (r : AdminRule) : Prioritized.priority r = r.priority := rfl
@[simp] theorem AdminRule.setPriority_eq (r : AdminRule) (p : Int) :
    setPriority r p = { r with priority := p } := rfl
@[simp] theorem AdminRule.idOf_eq (r : AdminRule) : idOf r = r.id := rfl

/-! ## The rule store -/

namespace RuleStore

variable {s : RuleStore}

theorem checkPriority_ok {p : Int} {u : Unit} : checkPriority p = .ok u ↔ 0 ≤ p := by
  unfold checkPriority
  split <;> simp <;> omega

theorem checkPayload_ok {r : Rule} {u : Unit} :
    checkPayload r = .ok u ↔ (r.access.layerDetails.isSome → r.ident.layer.isSome) := by
  unfold checkPayload
  split <;> simp_all [Option.isSome_iff_ne_none]

/-- A rule passes the duplicate check only if it is LIMIT or no stored rule
other than `own` has its identifier and grant. -/
theorem checkDuplicates_ok {r : Rule} {own : Option Nat} {u : Unit} :
    s.checkDuplicates r own = .ok u ↔
      (r.grant = .limit ∨ ∀ e ∈ s.table.entries, some e.1 ≠ own → e.2.identityKey ≠ r.identityKey) := by
  unfold checkDuplicates
  split
  · simp_all
  · split
    · rename_i hl hany
      obtain ⟨e, he, hd⟩ := List.any_eq_true.mp hany
      simp only [decide_eq_true_eq] at hd
      simp only [reduceCtorEq, false_iff, not_or]
      exact ⟨hl, fun h => h e he hd.1 hd.2⟩
    · rename_i hl hany
      simp only [List.any_eq_true, decide_eq_true_eq, not_exists, not_and] at hany
      exact iff_of_true rfl (.inr fun e he hk => hany e he hk)

theorem get_ok {id : Nat} {r : Rule} : s.get id = .ok r ↔ s.table.get? id = some r := by
  unfold get
  split <;> simp_all

/-- A creation that succeeds: the rule carried no identifier, a priority not
negative and a payload it may carry, and duplicated no stored rule unless it
is LIMIT. It is stored under the next identifier at the resolved priority,
after room was made there, and its creation is announced. -/
theorem create_ok (hv : s.table.Valid) {r : Rule} {pos : InsertPosition} {c : Committed RuleStore Rule}
    (h : s.create r pos = .ok c) :
    r.id = none ∧ 0 ≤ r.priority ∧ (r.access.layerDetails.isSome → r.ident.layer.isSome) ∧
      (r.grant = .limit ∨ ∀ e ∈ s.table.entries, e.2.identityKey ≠ r.identityKey) ∧
      c.answer = { r with id := some (s.table.lastId + 1), priority := s.table.resolve r.priority pos } ∧
      c.event = some (AclEvent.created .rule (s.table.lastId + 1)) ∧
      ∃ g, RoomAt (s.table.resolve r.priority pos) g s.table.values ∧
        (∀ x ∈ s.table.values, priority x = s.table.resolve r.priority pos →
          s.table.resolve r.priority pos + 1 ≤ Priority.top) ∧
        c.store.table =
          { lastId := s.table.lastId + 1,
            entries := s.table.entries.map (fun e => (e.1, g e.2)) ++ [(s.table.lastId + 1, c.answer)] } := by
  simp only [create] at h
  split at h
  · cases h
  rename_i hid
  obtain ⟨_, h₁, h⟩ := bind_eq_ok.mp h
  obtain ⟨_, h₂, h⟩ := bind_eq_ok.mp h
  obtain ⟨_, h₃, h⟩ := bind_eq_ok.mp h
  obtain ⟨t', h₄, h⟩ := bind_eq_ok.mp h
  simp only [pure, Except.pure, Except.ok.injEq] at h
  subst h
  obtain ⟨hl, g, hg, htop, ht⟩ := insert_eq hv h₄
    { r with id := some t'.nextId.1, priority := s.table.resolve r.priority pos }
  have hn : t'.nextId.1 = s.table.lastId + 1 := by simp [nextId, hl]
  refine ⟨by simpa using hid, checkPriority_ok.mp h₁, checkPayload_ok.mp h₂,
    by simpa using checkDuplicates_ok.mp h₃, by simp [hn], by simp [hn], g, hg, htop, by simpa [hn] using ht⟩

/-- A save that succeeds: the rule carried the identifier of a stored rule, a
priority not negative and a payload it may carry, and duplicates no other
stored rule unless it is LIMIT. It replaces the stored rule where it stands,
after room was made at its priority with the rule itself aside, and its
update is announced. -/
theorem save_ok (hv : s.table.Valid) {r : Rule} {c : Committed RuleStore Rule} (h : s.save r = .ok c) :
    ∃ id old, r.id = some id ∧ 0 ≤ r.priority ∧ (r.access.layerDetails.isSome → r.ident.layer.isSome) ∧
      (id, old) ∈ s.table.entries ∧
      (r.grant = .limit ∨ ∀ e ∈ s.table.entries, e.1 ≠ id → e.2.identityKey ≠ r.identityKey) ∧
      c.answer = r ∧ c.event = some (AclEvent.updated .rule [id]) ∧
      ∃ g, RoomAt r.priority g (others id s.table) ∧
        c.store.table =
          { lastId := s.table.lastId,
            entries := s.table.entries.map fun e => if e.1 = id then (id, r) else (e.1, g e.2) } := by
  simp only [save] at h
  split at h
  · rename_i id hid
    obtain ⟨_, h₁, h⟩ := bind_eq_ok.mp h
    obtain ⟨_, h₂, h⟩ := bind_eq_ok.mp h
    obtain ⟨old, h₃, h⟩ := bind_eq_ok.mp h
    obtain ⟨_, h₄, h⟩ := bind_eq_ok.mp h
    have hold : (id, old) ∈ s.table.entries := (get?_eq_some_iff hv.ascending).mp (get_ok.mp h₃)
    have hstep : ∃ t', (t' = s.table ∧ priority r = priority old ∨
        s.table.makeRoom (priority r) (some id) = .ok t') ∧
        c = { store := { table := t'.put id r }, answer := r,
              event := some (AclEvent.updated .rule [id]) } := by
      split at h
      · obtain ⟨t', h₅, h⟩ := bind_eq_ok.mp h
        simp only [pure, Except.pure, Except.ok.injEq] at h
        exact ⟨t', .inr h₅, h.symm⟩
      · rename_i hp
        simp only [pure, Except.pure, bind, Except.bind, Except.ok.injEq] at h
        exact ⟨s.table, .inl ⟨rfl, (Decidable.of_not_not hp).symm⟩, h.symm⟩
    obtain ⟨t', hroom, rfl⟩ := hstep
    obtain ⟨g, hg, ht⟩ := replace_eq hv hold hroom
    refine ⟨id, old, hid, checkPriority_ok.mp h₁, checkPayload_ok.mp h₂, hold, ?_, rfl, rfl, g, hg, ht⟩
    simpa using checkDuplicates_ok.mp h₄
  · cases h

/-- A shift that succeeds: the offset is positive, every rule from `start` on
moves by it, and the moved rules are announced, if there are any; the answer
is how many moved, or `-1`. -/
theorem shift_ok (hv : s.table.Valid) {start offset : Int} {c : Committed RuleStore Int}
    (h : s.shift start offset = .ok c) :
    0 < offset ∧
      c.store.table = { s.table with entries := s.table.entries.map fun e => (e.1, bump start offset e.2) } ∧
      let moved := (s.table.entries.filter fun e => start ≤ e.2.priority).map (·.1)
      c.answer = (if moved = [] then (-1 : Int) else moved.length) ∧
      c.event = if moved = [] then none else some (AclEvent.updated .rule moved) := by
  simp only [RuleStore.shift] at h
  split at h
  · cases h
  rename_i hoff
  obtain ⟨⟨t', moved⟩, h₁, h⟩ := bind_eq_ok.mp h
  obtain ⟨rfl, hm⟩ := shift_eq hv h₁
  simp only [Rule.priority_eq] at hm
  subst hm
  refine ⟨by omega, ?_⟩
  split at h
  · rename_i hnil
    simp only [pure, Except.pure, Except.ok.injEq] at h
    subst h
    have hnone : (s.table.entries.filter fun e => start ≤ e.2.priority).map (·.1) = [] := hnil
    have hstay : ∀ e ∈ s.table.entries, bump start offset e.2 = e.2 := by
      intro e he
      have hlt := List.filter_eq_nil_iff.mp (List.map_eq_nil_iff.mp hnone) e he
      simp only [decide_eq_true_eq] at hlt
      simp [bump, hlt]
    refine ⟨?_, by simp [hnone], by simp [hnone]⟩
    rw [List.map_congr_left fun e he => by rw [hstay e he], List.map_id']
  · rename_i hne
    simp only [pure, Except.pure, Except.ok.injEq] at h
    subst h
    have hne : (s.table.entries.filter fun e => start ≤ e.2.priority).map (·.1) ≠ [] := hne
    simp [hne]

/-- A swap that succeeds: both identifiers name stored rules, which exchange
their priorities, and both are announced as updated. -/
theorem swap_ok {id₁ id₂ : Nat} {c : Committed RuleStore Unit} (h : s.swap id₁ id₂ = .ok c) :
    ∃ r₁ r₂, s.table.get? id₁ = some r₁ ∧ s.table.get? id₂ = some r₂ ∧
      c.store.table = (s.table.modify id₁ (setPriority · r₂.priority)).modify id₂
        (setPriority · r₁.priority) ∧
      c.event = some (AclEvent.updated .rule [id₁, id₂]) := by
  simp only [RuleStore.swap] at h
  obtain ⟨r₁, h₁, h⟩ := bind_eq_ok.mp h
  obtain ⟨r₂, h₂, h⟩ := bind_eq_ok.mp h
  simp only [pure, Except.pure, Except.ok.injEq] at h
  subst h
  exact ⟨r₁, r₂, get_ok.mp h₁, get_ok.mp h₂, rfl, rfl⟩

/-- Setting the styles succeeds only on an ALLOW rule with layer details that
names a layer; only its styles change, and its update is announced. -/
theorem setAllowedStyles_ok {id : Nat} {styles : List String} {c : Committed RuleStore Unit}
    (h : s.setAllowedStyles id styles = .ok c) :
    ∃ old d, s.table.get? id = some old ∧ old.ident.layer.isSome ∧ old.access = .allow (some d) ∧
      c.store.table = s.table.put id
        { old with access := .allow (some { d with allowedStyles := TextSet.ofList styles }) } ∧
      c.event = some (AclEvent.updated .rule [id]) := by
  simp only [setAllowedStyles] at h
  obtain ⟨old, h₁, h⟩ := bind_eq_ok.mp h
  split at h
  · cases h
  rename_i hl
  split at h
  · rename_i d hd
    simp only [pure, Except.pure, Except.ok.injEq] at h
    subst h
    refine ⟨old, d, get_ok.mp h₁, ?_, hd, rfl, rfl⟩
    cases hlay : old.ident.layer <;> simp_all
  · simp at h

/-- Setting the limits changes the limits of a LIMIT rule, or, when clearing
them, may leave any other rule as it is; the update is announced. -/
theorem setLimits_ok {id : Nat} {limits : Option RuleLimits} {c : Committed RuleStore Unit}
    (h : s.setLimits id limits = .ok c) :
    ∃ old new, s.table.get? id = some old ∧
      (old.grant = .limit ∧ new = { old with access := .limit limits } ∨ limits = none ∧ new = old) ∧
      c.store.table = s.table.put id new ∧ c.event = some (AclEvent.updated .rule [id]) := by
  simp only [setLimits] at h
  obtain ⟨old, h₁, h⟩ := bind_eq_ok.mp h
  split at h
  · simp only [pure, Except.pure, bind, Except.bind, Except.ok.injEq] at h
    subst h
    refine ⟨old, _, get_ok.mp h₁, .inl ⟨?_, rfl⟩, rfl, rfl⟩
    simp_all [Rule.grant, Access.grant]
  · cases h
  · simp only [pure, Except.pure, bind, Except.bind, Except.ok.injEq] at h
    subst h
    exact ⟨old, old, get_ok.mp h₁, .inr ⟨rfl, rfl⟩, rfl, rfl⟩

/-- Setting the layer details changes the details of an ALLOW rule, and
details need a rule that names a layer; clearing them may leave any other
rule as it is. The update is announced. -/
theorem setLayerDetails_ok {id : Nat} {details : Option LayerDetails} {c : Committed RuleStore Unit}
    (h : s.setLayerDetails id details = .ok c) :
    ∃ old new, s.table.get? id = some old ∧ (details.isSome → old.ident.layer.isSome) ∧
      (old.grant = .allow ∧ new = { old with access := .allow details } ∨ details = none ∧ new = old) ∧
      c.store.table = s.table.put id new ∧ c.event = some (AclEvent.updated .rule [id]) := by
  simp only [setLayerDetails] at h
  obtain ⟨old, h₁, h⟩ := bind_eq_ok.mp h
  split at h
  · cases h
  rename_i hl
  have hlay : details.isSome → old.ident.layer.isSome := by
    intro hd
    cases hlay : old.ident.layer <;> simp_all
  split at h
  · simp only [pure, Except.pure, bind, Except.bind, Except.ok.injEq] at h
    subst h
    refine ⟨old, _, get_ok.mp h₁, hlay, .inl ⟨?_, rfl⟩, rfl, rfl⟩
    simp_all [Rule.grant, Access.grant]
  · cases h
  · simp only [pure, Except.pure, bind, Except.bind, Except.ok.injEq] at h
    subst h
    exact ⟨old, old, get_ok.mp h₁, hlay, .inr ⟨rfl, rfl⟩, rfl, rfl⟩

end RuleStore

/-! ## The admin rule store -/

namespace AdminRuleStore

variable {s : AdminRuleStore}

theorem checkPriority_ok {p : Int} {u : Unit} : checkPriority p = .ok u ↔ 0 ≤ p := by
  unfold checkPriority
  split <;> simp <;> omega

/-- An admin rule passes the duplicate check only if no stored admin rule
other than `own` has its identifier. -/
theorem checkDuplicates_ok {r : AdminRule} {own : Option Nat} {u : Unit} :
    s.checkDuplicates r own = .ok u ↔ ∀ e ∈ s.table.entries, some e.1 ≠ own → e.2.ident ≠ r.ident := by
  unfold checkDuplicates
  split
  · rename_i hany
    obtain ⟨e, he, hd⟩ := List.any_eq_true.mp hany
    simp only [decide_eq_true_eq] at hd
    simp only [reduceCtorEq, false_iff]
    exact fun h => h e he hd.1 hd.2
  · rename_i hany
    simp only [List.any_eq_true, decide_eq_true_eq, not_exists, not_and] at hany
    exact iff_of_true rfl fun e he hk => hany e he hk

theorem get_ok {id : Nat} {r : AdminRule} : s.get id = .ok r ↔ s.table.get? id = some r := by
  unfold get
  split <;> simp_all

/-- A creation that succeeds: the admin rule carried no identifier and a
priority not negative, and duplicated no stored one. It is stored under the
next identifier at the resolved priority, after room was made there, and its
creation is announced. -/
theorem create_ok (hv : s.table.Valid) {r : AdminRule} {pos : InsertPosition}
    {c : Committed AdminRuleStore AdminRule} (h : s.create r pos = .ok c) :
    r.id = none ∧ 0 ≤ r.priority ∧ (∀ e ∈ s.table.entries, e.2.ident ≠ r.ident) ∧
      c.answer = { r with id := some (s.table.lastId + 1), priority := s.table.resolve r.priority pos } ∧
      c.event = some (AclEvent.created .adminRule (s.table.lastId + 1)) ∧
      ∃ g, RoomAt (s.table.resolve r.priority pos) g s.table.values ∧
        (∀ x ∈ s.table.values, priority x = s.table.resolve r.priority pos →
          s.table.resolve r.priority pos + 1 ≤ Priority.top) ∧
        c.store.table =
          { lastId := s.table.lastId + 1,
            entries := s.table.entries.map (fun e => (e.1, g e.2)) ++ [(s.table.lastId + 1, c.answer)] } := by
  simp only [create] at h
  split at h
  · cases h
  rename_i hid
  obtain ⟨_, h₁, h⟩ := bind_eq_ok.mp h
  obtain ⟨_, h₃, h⟩ := bind_eq_ok.mp h
  obtain ⟨t', h₄, h⟩ := bind_eq_ok.mp h
  simp only [pure, Except.pure, Except.ok.injEq] at h
  subst h
  obtain ⟨hl, g, hg, htop, ht⟩ := insert_eq hv h₄
    { r with id := some t'.nextId.1, priority := s.table.resolve r.priority pos }
  have hn : t'.nextId.1 = s.table.lastId + 1 := by simp [nextId, hl]
  refine ⟨by simpa using hid, checkPriority_ok.mp h₁, by simpa using checkDuplicates_ok.mp h₃,
    by simp [hn], by simp [hn], g, hg, htop, by simpa [hn] using ht⟩

/-- A save that succeeds: the admin rule carried the identifier of a stored
one and a priority not negative, and duplicates no other stored one. It
replaces the stored one where it stands, after room was made at its priority
with itself aside, and its update is announced. -/
theorem save_ok (hv : s.table.Valid) {r : AdminRule} {c : Committed AdminRuleStore AdminRule}
    (h : s.save r = .ok c) :
    ∃ id old, r.id = some id ∧ 0 ≤ r.priority ∧ (id, old) ∈ s.table.entries ∧
      (∀ e ∈ s.table.entries, e.1 ≠ id → e.2.ident ≠ r.ident) ∧
      c.answer = r ∧ c.event = some (AclEvent.updated .adminRule [id]) ∧
      ∃ g, RoomAt r.priority g (others id s.table) ∧
        c.store.table =
          { lastId := s.table.lastId,
            entries := s.table.entries.map fun e => if e.1 = id then (id, r) else (e.1, g e.2) } := by
  simp only [save] at h
  split at h
  · rename_i id hid
    obtain ⟨_, h₁, h⟩ := bind_eq_ok.mp h
    obtain ⟨old, h₃, h⟩ := bind_eq_ok.mp h
    obtain ⟨_, h₄, h⟩ := bind_eq_ok.mp h
    have hold : (id, old) ∈ s.table.entries := (get?_eq_some_iff hv.ascending).mp (get_ok.mp h₃)
    have hstep : ∃ t', (t' = s.table ∧ priority r = priority old ∨
        s.table.makeRoom (priority r) (some id) = .ok t') ∧
        c = { store := { table := t'.put id r }, answer := r,
              event := some (AclEvent.updated .adminRule [id]) } := by
      split at h
      · obtain ⟨t', h₅, h⟩ := bind_eq_ok.mp h
        simp only [pure, Except.pure, Except.ok.injEq] at h
        exact ⟨t', .inr h₅, h.symm⟩
      · rename_i hp
        simp only [pure, Except.pure, bind, Except.bind, Except.ok.injEq] at h
        exact ⟨s.table, .inl ⟨rfl, (Decidable.of_not_not hp).symm⟩, h.symm⟩
    obtain ⟨t', hroom, rfl⟩ := hstep
    obtain ⟨g, hg, ht⟩ := replace_eq hv hold hroom
    exact ⟨id, old, hid, checkPriority_ok.mp h₁, hold, by simpa using checkDuplicates_ok.mp h₄,
      rfl, rfl, g, hg, ht⟩
  · cases h

/-- A shift that succeeds: the offset is positive, every admin rule from
`start` on moves by it, and the moved ones are announced, if there are any;
the answer is how many moved, or `-1`. -/
theorem shift_ok (hv : s.table.Valid) {start offset : Int} {c : Committed AdminRuleStore Int}
    (h : s.shift start offset = .ok c) :
    0 < offset ∧
      c.store.table = { s.table with entries := s.table.entries.map fun e => (e.1, bump start offset e.2) } ∧
      let moved := (s.table.entries.filter fun e => start ≤ e.2.priority).map (·.1)
      c.answer = (if moved = [] then (-1 : Int) else moved.length) ∧
      c.event = if moved = [] then none else some (AclEvent.updated .adminRule moved) := by
  simp only [AdminRuleStore.shift] at h
  split at h
  · cases h
  rename_i hoff
  obtain ⟨⟨t', moved⟩, h₁, h⟩ := bind_eq_ok.mp h
  obtain ⟨rfl, hm⟩ := shift_eq hv h₁
  simp only [AdminRule.priority_eq] at hm
  subst hm
  refine ⟨by omega, ?_⟩
  split at h
  · rename_i hnil
    simp only [pure, Except.pure, Except.ok.injEq] at h
    subst h
    have hnone : (s.table.entries.filter fun e => start ≤ e.2.priority).map (·.1) = [] := hnil
    have hstay : ∀ e ∈ s.table.entries, bump start offset e.2 = e.2 := by
      intro e he
      have hlt := List.filter_eq_nil_iff.mp (List.map_eq_nil_iff.mp hnone) e he
      simp only [decide_eq_true_eq] at hlt
      simp [bump, hlt]
    refine ⟨?_, by simp [hnone], by simp [hnone]⟩
    rw [List.map_congr_left fun e he => by rw [hstay e he], List.map_id']
  · rename_i hne
    simp only [pure, Except.pure, Except.ok.injEq] at h
    subst h
    have hne : (s.table.entries.filter fun e => start ≤ e.2.priority).map (·.1) ≠ [] := hne
    simp [hne]

/-- A swap that succeeds: both identifiers name stored admin rules, which
exchange their priorities, and both are announced as updated. -/
theorem swap_ok {id₁ id₂ : Nat} {c : Committed AdminRuleStore Unit} (h : s.swap id₁ id₂ = .ok c) :
    ∃ r₁ r₂, s.table.get? id₁ = some r₁ ∧ s.table.get? id₂ = some r₂ ∧
      c.store.table = (s.table.modify id₁ (setPriority · r₂.priority)).modify id₂
        (setPriority · r₁.priority) ∧
      c.event = some (AclEvent.updated .adminRule [id₁, id₂]) := by
  simp only [AdminRuleStore.swap] at h
  obtain ⟨r₁, h₁, h⟩ := bind_eq_ok.mp h
  obtain ⟨r₂, h₂, h⟩ := bind_eq_ok.mp h
  simp only [pure, Except.pure, Except.ok.injEq] at h
  subst h
  exact ⟨r₁, r₂, get_ok.mp h₁, get_ok.mp h₂, rfl, rfl⟩

end AdminRuleStore

/-! ## Writes as data -/

/-- What a committed write leaves, its answer aside. -/
def Committed.drop {σ α : Type} (c : Committed σ α) : Committed σ Unit :=
  { store := c.store, answer := (), event := c.event }

/-- A write on the rule store, with its arguments. -/
inductive RuleWrite where
  | create (r : Rule) (position : InsertPosition)
  | save (r : Rule)
  | delete (id : Nat)
  | shift (start offset : Int)
  | swap (id₁ id₂ : Nat)
  | setAllowedStyles (id : Nat) (styles : List String)
  | setLimits (id : Nat) (limits : Option RuleLimits)
  | setLayerDetails (id : Nat) (details : Option LayerDetails)

namespace RuleWrite

/-- Runs a write: the store after it and the change it announces, or why it
failed. -/
def apply : RuleWrite → RuleStore → Except StoreError (Committed RuleStore Unit)
  | .create r pos, s => (s.create r pos).map Committed.drop
  | .save r, s => (s.save r).map Committed.drop
  | .delete id, s => .ok (s.delete id).drop
  | .shift start offset, s => (s.shift start offset).map Committed.drop
  | .swap id₁ id₂, s => s.swap id₁ id₂
  | .setAllowedStyles id styles, s => s.setAllowedStyles id styles
  | .setLimits id limits, s => s.setLimits id limits
  | .setLayerDetails id details, s => s.setLayerDetails id details

/-- The store after a write; a failed write leaves it as it was. -/
def step (w : RuleWrite) (s : RuleStore) : RuleStore :=
  match w.apply s with
  | .ok c => c.store
  | .error _ => s

theorem step_of_ok {w : RuleWrite} {s : RuleStore} {c : Committed RuleStore Unit}
    (h : w.apply s = .ok c) : w.step s = c.store := by
  simp [step, h]

theorem step_of_error {w : RuleWrite} {s : RuleStore} {e : StoreError} (h : w.apply s = .error e) :
    w.step s = s := by
  simp [step, h]

/-- The identifier a write hands out: that of the rule a successful creation
stores. -/
def issued : RuleWrite → RuleStore → Option Nat
  | .create r pos, s =>
    match s.create r pos with
    | .ok c => c.answer.id
    | .error _ => none
  | _, _ => none

end RuleWrite

/-- The store a sequence of writes leaves, from the empty store. -/
def RuleStore.run (ws : List RuleWrite) : RuleStore := ws.foldl (fun s w => w.step s) {}

/-- The identifiers handed out along a sequence of writes from `s`, in order. -/
def RuleStore.issuedAlong : RuleStore → List RuleWrite → List Nat
  | _, [] => []
  | s, w :: ws => (w.issued s).toList ++ issuedAlong (w.step s) ws

/-- A write on the admin rule store, with its arguments. -/
inductive AdminWrite where
  | create (r : AdminRule) (position : InsertPosition)
  | save (r : AdminRule)
  | delete (id : Nat)
  | shift (start offset : Int)
  | swap (id₁ id₂ : Nat)

namespace AdminWrite

/-- Runs a write: the store after it and the change it announces, or why it
failed. -/
def apply : AdminWrite → AdminRuleStore → Except StoreError (Committed AdminRuleStore Unit)
  | .create r pos, s => (s.create r pos).map Committed.drop
  | .save r, s => (s.save r).map Committed.drop
  | .delete id, s => .ok (s.delete id).drop
  | .shift start offset, s => (s.shift start offset).map Committed.drop
  | .swap id₁ id₂, s => s.swap id₁ id₂

/-- The store after a write; a failed write leaves it as it was. -/
def step (w : AdminWrite) (s : AdminRuleStore) : AdminRuleStore :=
  match w.apply s with
  | .ok c => c.store
  | .error _ => s

theorem step_of_ok {w : AdminWrite} {s : AdminRuleStore} {c : Committed AdminRuleStore Unit}
    (h : w.apply s = .ok c) : w.step s = c.store := by
  simp [step, h]

theorem step_of_error {w : AdminWrite} {s : AdminRuleStore} {e : StoreError} (h : w.apply s = .error e) :
    w.step s = s := by
  simp [step, h]

/-- The identifier a write hands out: that of the admin rule a successful
creation stores. -/
def issued : AdminWrite → AdminRuleStore → Option Nat
  | .create r pos, s =>
    match s.create r pos with
    | .ok c => c.answer.id
    | .error _ => none
  | _, _ => none

end AdminWrite

/-- The store a sequence of writes leaves, from the empty store. -/
def AdminRuleStore.run (ws : List AdminWrite) : AdminRuleStore := ws.foldl (fun s w => w.step s) {}

/-- The identifiers handed out along a sequence of writes from `s`, in order. -/
def AdminRuleStore.issuedAlong : AdminRuleStore → List AdminWrite → List Nat
  | _, [] => []
  | s, w :: ws => (w.issued s).toList ++ issuedAlong (w.step s) ws

end GeoAccess
