import GeoAccess.Proofs.Writes

/-!
# What a write keeps of the rules it does not name

A write announces the rules it may have made answers about wrong: an update
names every rule it changed, a deletion the rule it removed, and a creation
names none. Rules a write leaves unnamed can still move: a creation or a save
makes room at its priority by moving others up. Such a move changes
priorities only and keeps their order, which is all an answer resting on those
rules depends on.

- `Table.KeepsBy N g es es'`: each entry of `es` under an identifier in `N` is
  in `es'`, changed by `g` in its priority only, and `g` keeps their order;
  `Table.Keeps` says some such `g` exists, and chains (`Keeps.trans`).
- `AclEvent.Names e k id`: the change `e` announces an update or a deletion of
  the rule `id` of kind `k`.
- `RuleWrite.keeps_apply`, `AdminWrite.keeps_apply`: a write keeps the rules
  under every identifier its change does not name.
-/

namespace GeoAccess

open Prioritized LawfulPrioritized

namespace Table

section Keeps

variable {α : Type} [Prioritized α]

/-- `es'` keeps the entries of `es` under the identifiers `N`: each is in `es'`
changed by `g`, which moves its priority only and keeps the order of their
priorities. -/
structure KeepsBy (N : List Nat) (g : α → α) (es es' : List (Nat × α)) : Prop where
  mem : ∀ e ∈ es, e.1 ∈ N → (e.1, g e.2) ∈ es'
  same : ∀ e ∈ es, e.1 ∈ N → setPriority (g e.2) 0 = setPriority e.2 0
  order : ∀ e ∈ es, e.1 ∈ N → ∀ e' ∈ es, e'.1 ∈ N → priority e.2 < priority e'.2 →
    priority (g e.2) < priority (g e'.2)

/-- The table `t'` keeps the entries of `t` under the identifiers `N`, up to a
move of their priorities that keeps their order. -/
def Keeps (N : List Nat) (t t' : Table α) : Prop := ∃ g, KeepsBy N g t.entries t'.entries

variable {N : List Nat} {es es' es'' : List (Nat × α)}

/-- Entries that stay as they are are kept. -/
theorem KeepsBy.of_mem (h : ∀ e ∈ es, e.1 ∈ N → e ∈ es') : KeepsBy N id es es' where
  mem e he hN := h e he hN
  same _ _ _ := rfl
  order _ _ _ _ _ _ hp := hp

/-- Entries moved as room-making moves them are kept. -/
theorem KeepsBy.of_room {p : Int} {g : α → α} {xs : List α} (hg : RoomAt p g xs)
    (hxs : ∀ e ∈ es, e.1 ∈ N → e.2 ∈ xs) (hmem : ∀ e ∈ es, e.1 ∈ N → (e.1, g e.2) ∈ es') :
    KeepsBy N g es es' where
  mem := hmem
  same e he hN := hg.same e.2 (hxs e he hN)
  order e he hN e' he' hN' hp := hg.order e.2 (hxs e he hN) e'.2 (hxs e' he' hN') hp

theorem KeepsBy.trans {g g' : α → α} (h : KeepsBy N g es es') (h' : KeepsBy N g' es' es'') :
    KeepsBy N (g' ∘ g) es es'' where
  mem e he hN := h'.mem _ (h.mem e he hN) hN
  same e he hN := by
    rw [Function.comp_apply, h'.same _ (h.mem e he hN) hN, h.same e he hN]
  order e he hN e' he' hN' hp :=
    h'.order _ (h.mem e he hN) hN _ (h.mem e' he' hN') hN' (h.order e he hN e' he' hN' hp)

/-- A kept entry is found, moved, under its identifier. -/
theorem KeepsBy.get? {t t' : Table α} {g : α → α} (hg : KeepsBy N g t.entries t'.entries)
    (ht : Ascending t.entries) (ht' : Ascending t'.entries) {k : Nat} (hk : k ∈ N) {a : α}
    (h : t.get? k = some a) : t'.get? k = some (g a) :=
  (get?_eq_some_iff ht').mpr (hg.mem (k, a) ((get?_eq_some_iff ht).mp h) hk)

/-- Two entries that agree but for their priorities differ by a move of
priority. -/
theorem eq_setPriority_of_same [LawfulPrioritized α] {a b : α} (h : setPriority a 0 = setPriority b 0) :
    a = setPriority b (priority a) :=
  calc a = setPriority a (priority a) := (setPriority_priority a).symm
    _ = setPriority (setPriority a 0) (priority a) := (setPriority_setPriority a 0 _).symm
    _ = setPriority (setPriority b 0) (priority a) := by rw [h]
    _ = setPriority b (priority a) := setPriority_setPriority b 0 _

theorem Keeps.refl (t : Table α) : t.Keeps N t :=
  ⟨id, .of_mem fun _ he _ => he⟩

theorem Keeps.trans {t t' t'' : Table α} (h : t.Keeps N t') (h' : t'.Keeps N t'') : t.Keeps N t'' := by
  obtain ⟨g, hg⟩ := h
  obtain ⟨g', hg'⟩ := h'
  exact ⟨g' ∘ g, hg.trans hg'⟩

/-! ## The changes the stores make -/

/-- Room made at `p` keeps every entry, moved by the room-making. -/
theorem keeps_room {t t' : Table α} {p : Int} {g : α → α} (hg : RoomAt p g t.values)
    (hmem : ∀ e ∈ t.entries, (e.1, g e.2) ∈ t'.entries) : t.Keeps N t' :=
  ⟨g, .of_room hg (fun _ he _ => List.mem_map_of_mem he) fun e he _ => hmem e he⟩

/-- A replacement under `k`, after room was made around it, keeps the entries
under the other identifiers. -/
theorem keeps_replace {t : Table α} {k : Nat} {a : α} {g : α → α} (hg : RoomAt (priority a) g (others k t))
    (hk : k ∉ N) (l : Nat) :
    t.Keeps N { lastId := l, entries := t.entries.map fun e => if e.1 = k then (k, a) else (e.1, g e.2) } := by
  refine ⟨g, .of_room hg (fun e he hN => mem_others he ?_) fun e he hN => ?_⟩
  · exact fun h => hk (h ▸ hN)
  · have hne : e.1 ≠ k := fun h => hk (h ▸ hN)
    exact List.mem_map.mpr ⟨e, he, by simp [hne]⟩

theorem keeps_put {t : Table α} (ht : Ascending t.entries) {k : Nat} {old : α} (hold : t.get? k = some old)
    (hk : k ∉ N) (a : α) : t.Keeps N (t.put k a) := by
  have hkey : k ∈ t.entries.map (·.1) := List.mem_map.mpr ⟨_, (get?_eq_some_iff ht).mp hold, rfl⟩
  refine ⟨id, .of_mem fun e he hN => ?_⟩
  have hne : e.1 ≠ k := fun h => hk (h ▸ hN)
  simp only [put]
  rw [putEntry_of_mem ht hkey]
  exact List.mem_map.mpr ⟨e, he, if_neg hne⟩

theorem keeps_erase (t : Table α) {k : Nat} (hk : k ∉ N) : t.Keeps N (t.erase k) := by
  refine ⟨id, .of_mem fun e he hN => List.mem_filter.mpr ⟨he, ?_⟩⟩
  have hne : e.1 ≠ k := fun h => hk (h ▸ hN)
  simpa using hne

theorem keeps_modify (t : Table α) {k : Nat} (hk : k ∉ N) (f : α → α) : t.Keeps N (t.modify k f) := by
  refine ⟨id, .of_mem fun e he hN => ?_⟩
  have hne : e.1 ≠ k := fun h => hk (h ▸ hN)
  obtain ⟨k', a⟩ := e
  exact List.mem_map.mpr ⟨(k', a), he, by simp only at hne; simp [hne]⟩

end Keeps

end Table

/-! ## Changes that name a rule -/

namespace AclEvent

/-- The change `e` announces an update or a deletion of the rule `id` of kind
`k`: what a cache must hear to forget the answers resting on that rule. -/
def Names (e : AclEvent) (k : RuleKind) (id : Nat) : Prop :=
  e.eventType.invalidates = true ∧ e.kind = k ∧ id ∈ e.ruleIds

@[simp] theorem names_updated {k k' : RuleKind} {ids : List Nat} {id : Nat} :
    (updated k ids).Names k' id ↔ k = k' ∧ id ∈ ids := by
  simp [Names, updated, make, EventType.invalidates, OrdSet.mem_ofList]

@[simp] theorem names_deleted {k k' : RuleKind} {i id : Nat} :
    (deleted k i).Names k' id ↔ k = k' ∧ id = i := by
  simp [Names, deleted, make, EventType.invalidates, OrdSet.mem_ofList]

end AclEvent

/-! ## Writes -/

open Table

namespace RuleWrite

variable {s : RuleStore} {c : Committed RuleStore Unit} {N : List Nat}

/-- A write keeps the rules under every identifier its change does not name.
A creation or a save moves other rules up unannounced, but in order; every
other change is named. -/
theorem keeps_apply (hv : s.table.Valid) {w : RuleWrite} (h : w.apply s = .ok c)
    (hN : ∀ e ∈ c.event, ∀ id ∈ N, ¬ e.Names .rule id) : s.table.Keeps N c.store.table := by
  cases w with
  | create r pos =>
    obtain ⟨c, hc, rfl⟩ := map_eq_ok.mp h
    obtain ⟨-, -, -, -, -, -, g, hg, -, ht⟩ := RuleStore.create_ok hv hc
    simp only [Committed.drop, ht]
    exact keeps_room hg fun e he => List.mem_append_left _ (List.mem_map_of_mem he)
  | save r =>
    obtain ⟨c, hc, rfl⟩ := map_eq_ok.mp h
    obtain ⟨id, -, -, -, -, -, -, -, hev, g, hg, ht⟩ := RuleStore.save_ok hv hc
    have hid : id ∉ N := fun hid => hN _ hev id hid (by simp)
    simp only [Committed.drop, ht]
    exact keeps_replace hg hid _
  | delete id =>
    simp only [apply, Except.ok.injEq] at h
    subst h
    by_cases hc : s.table.contains id
    · simp only [RuleStore.delete, hc, ↓reduceIte, Committed.drop] at hN ⊢
      exact keeps_erase _ fun hid => hN _ rfl id hid (by simp)
    · simp only [RuleStore.delete, hc, Committed.drop]
      exact Keeps.refl _
  | shift start offset =>
    obtain ⟨c, hc, rfl⟩ := map_eq_ok.mp h
    obtain ⟨hoff, ht, -⟩ := RuleStore.shift_ok hv hc
    simp only [Committed.drop, ht]
    exact keeps_room (RoomAt.bump hoff _) fun e he => List.mem_map_of_mem he
  | swap id₁ id₂ =>
    obtain ⟨r₁, r₂, -, -, ht, hev⟩ := RuleStore.swap_ok h
    have h₁ : id₁ ∉ N := fun hid => hN _ hev id₁ hid (by simp)
    have h₂ : id₂ ∉ N := fun hid => hN _ hev id₂ hid (by simp)
    rw [ht]
    exact (keeps_modify _ h₁ _).trans (keeps_modify _ h₂ _)
  | setAllowedStyles id styles =>
    obtain ⟨old, _, hold, -, -, ht, hev⟩ := RuleStore.setAllowedStyles_ok h
    rw [ht]
    exact keeps_put hv.ascending hold (fun hid => hN _ hev id hid (by simp)) _
  | setLimits id limits =>
    obtain ⟨old, _, hold, -, ht, hev⟩ := RuleStore.setLimits_ok h
    rw [ht]
    exact keeps_put hv.ascending hold (fun hid => hN _ hev id hid (by simp)) _
  | setLayerDetails id details =>
    obtain ⟨old, _, hold, -, -, ht, hev⟩ := RuleStore.setLayerDetails_ok h
    rw [ht]
    exact keeps_put hv.ascending hold (fun hid => hN _ hev id hid (by simp)) _

end RuleWrite

namespace AdminWrite

variable {s : AdminRuleStore} {c : Committed AdminRuleStore Unit} {N : List Nat}

/-- A write keeps the admin rules under every identifier its change does not
name. -/
theorem keeps_apply (hv : s.table.Valid) {w : AdminWrite} (h : w.apply s = .ok c)
    (hN : ∀ e ∈ c.event, ∀ id ∈ N, ¬ e.Names .adminRule id) : s.table.Keeps N c.store.table := by
  cases w with
  | create r pos =>
    obtain ⟨c, hc, rfl⟩ := map_eq_ok.mp h
    obtain ⟨-, -, -, -, -, g, hg, -, ht⟩ := AdminRuleStore.create_ok hv hc
    simp only [Committed.drop, ht]
    exact keeps_room hg fun e he => List.mem_append_left _ (List.mem_map_of_mem he)
  | save r =>
    obtain ⟨c, hc, rfl⟩ := map_eq_ok.mp h
    obtain ⟨id, -, -, -, -, -, -, hev, g, hg, ht⟩ := AdminRuleStore.save_ok hv hc
    have hid : id ∉ N := fun hid => hN _ hev id hid (by simp)
    simp only [Committed.drop, ht]
    exact keeps_replace hg hid _
  | delete id =>
    simp only [apply, Except.ok.injEq] at h
    subst h
    by_cases hc : s.table.contains id
    · simp only [AdminRuleStore.delete, hc, ↓reduceIte, Committed.drop] at hN ⊢
      exact keeps_erase _ fun hid => hN _ rfl id hid (by simp)
    · simp only [AdminRuleStore.delete, hc, Committed.drop]
      exact Keeps.refl _
  | shift start offset =>
    obtain ⟨c, hc, rfl⟩ := map_eq_ok.mp h
    obtain ⟨hoff, ht, -⟩ := AdminRuleStore.shift_ok hv hc
    simp only [Committed.drop, ht]
    exact keeps_room (RoomAt.bump hoff _) fun e he => List.mem_map_of_mem he
  | swap id₁ id₂ =>
    obtain ⟨r₁, r₂, -, -, ht, hev⟩ := AdminRuleStore.swap_ok h
    have h₁ : id₁ ∉ N := fun hid => hN _ hev id₁ hid (by simp)
    have h₂ : id₂ ∉ N := fun hid => hN _ hev id₂ hid (by simp)
    rw [ht]
    exact (keeps_modify _ h₁ _).trans (keeps_modify _ h₂ _)

end AdminWrite

end GeoAccess
