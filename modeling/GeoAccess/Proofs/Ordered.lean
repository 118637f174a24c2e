import GeoAccess.Proofs.Listing

/-!
# The stores as ordered lists

The unfiltered listing of a store, its rules in ascending priority, behaves
under every write as an ordered list does, rules compared up to their
priority (`RuleStore.ListingLaws`, `AdminRuleStore.ListingLaws`). A creation
inserts the new rule after the rules below the priority it asked for, or at
the place its relative position names; a save takes the rule out and puts it
back after the other rules below its new priority; a deletion removes it; a
swap exchanges two rules in place; a shift keeps the order; a payload setter
changes one rule in place; a failed write changes nothing. So the room a
creation or a save makes, moving rules up by one, never reorders them. Every
valid store obeys these laws (`RuleStore.ListingLaws.of_valid`), hence every
store a run of writes reaches (`run_listing_laws`).
-/

namespace GeoAccess

open Prioritized LawfulPrioritized Table

/-- Room-making changes what it moves up to priority only. -/
theorem Table.RoomAt.map_setPriority {α : Type} [Prioritized α] {p : Int} {g : α → α} {xs : List α}
    (hg : RoomAt p g xs) : (xs.map g).map (setPriority · 0) = xs.map (setPriority · 0) := by
  rw [List.map_map]
  exact List.map_congr_left fun x hx => hg.same x hx

/-! ## Rules -/

namespace RuleStore

theorem findAll_all (s : RuleStore) : s.findAll {} = s.table.listing := s.table.page_all

/-- A payload setter on `id` that succeeded: the rule stored under `id` took
an access of the same grant, in its place. -/
def PayloadSet (s : RuleStore) (id : Nat) (c : Committed RuleStore Unit) : Prop :=
  ∃ r a, s.findById id = some r ∧ a.grant = r.grant ∧
    c.store.findAll {} = (s.findAll {}).map fun x => if x.id = some id then { r with access := a } else x

/-- What each write does to the listing of a store, rules compared up to their
priority. -/
structure ListingLaws (s : RuleStore) : Prop where
  /-- A creation inserts the new rule where its position says: after the rules
  below its priority, after the first `k`, or before the last `k`. -/
  create : ∀ r pos (c : Committed RuleStore Rule), s.create r pos = .ok c →
    (c.store.findAll {}).map (·.withPriority 0) =
      ((s.findAll {}).map (·.withPriority 0)).insertIdx
        (pos.index ((s.findAll {}).countP (·.priority < r.priority)) (s.findAll {}).length r.priority)
        ({ r with id := c.answer.id }.withPriority 0)
  /-- A save takes the old rule out and puts the new one after the other rules
  below its priority. -/
  save : ∀ r (c : Committed RuleStore Rule), s.save r = .ok c →
    (c.store.findAll {}).map (·.withPriority 0) =
      (((s.findAll {}).filter (·.id ≠ r.id)).map (·.withPriority 0)).insertIdx
        (((s.findAll {}).filter (·.id ≠ r.id)).countP (·.priority < r.priority)) (r.withPriority 0)
  /-- A deletion removes the rule. -/
  delete : ∀ id, (s.delete id).store.findAll {} = (s.findAll {}).filter (·.id ≠ some id)
  /-- A swap exchanges the two rules in place. -/
  swap : ∀ id₁ id₂ (c : Committed RuleStore Unit), s.swap id₁ id₂ = .ok c →
    ∃ r₁ r₂, s.findById id₁ = some r₁ ∧ s.findById id₂ = some r₂ ∧
      (c.store.findAll {}).map (·.withPriority 0) = (s.findAll {}).map fun x =>
        if x.id = some id₁ then r₂.withPriority 0 else if x.id = some id₂ then r₁.withPriority 0
        else x.withPriority 0
  /-- A shift keeps the order. -/
  shift : ∀ start offset (c : Committed RuleStore Int), s.shift start offset = .ok c →
    (c.store.findAll {}).map (·.withPriority 0) = (s.findAll {}).map (·.withPriority 0)
  setAllowedStyles : ∀ id styles c, s.setAllowedStyles id styles = .ok c → s.PayloadSet id c
  setLimits : ∀ id limits c, s.setLimits id limits = .ok c → s.PayloadSet id c
  setLayerDetails : ∀ id details c, s.setLayerDetails id details = .ok c → s.PayloadSet id c
  /-- A failed write changes nothing. -/
  failed : ∀ (w : RuleWrite) e, w.apply s = .error e → (w.step s).findAll {} = s.findAll {}

namespace ListingLaws

variable {s : RuleStore}

theorem create_of_valid (hv : s.table.Valid) {r : Rule} {pos : InsertPosition}
    {c : Committed RuleStore Rule} (h : s.create r pos = .ok c) :
    (c.store.findAll {}).map (·.withPriority 0) =
      ((s.findAll {}).map (·.withPriority 0)).insertIdx
        (pos.index ((s.findAll {}).countP (·.priority < r.priority)) (s.findAll {}).length r.priority)
        ({ r with id := c.answer.id }.withPriority 0) := by
  obtain ⟨-, hp, -, -, hans, -, g, hg, htop, ht⟩ := create_ok hv h
  have hP : priority c.answer = s.table.resolve r.priority pos := by rw [hans]; rfl
  have hid : idOf c.answer = some (s.table.lastId + 1) := by rw [hans]; rfl
  have hlist := listing_insert hv hg (resolve_nonneg hv hp pos) hP hid
  have hidx := countP_resolve hv r.priority pos htop
  simp only [Rule.priority_eq] at hlist hidx
  rw [findAll_all, findAll_all, ht, hlist, hidx, List.map_insertIdx]
  congr 1
  · exact (hg.sub fun _ hx => mem_listing.mp hx).map_setPriority
  · rw [hans]
    rfl

theorem save_of_valid (hv : s.table.Valid) {r : Rule} {c : Committed RuleStore Rule} (h : s.save r = .ok c) :
    (c.store.findAll {}).map (·.withPriority 0) =
      (((s.findAll {}).filter (·.id ≠ r.id)).map (·.withPriority 0)).insertIdx
        (((s.findAll {}).filter (·.id ≠ r.id)).countP (·.priority < r.priority)) (r.withPriority 0) := by
  obtain ⟨id, old, hid, hp, -, hold, -, -, -, g, hg, ht⟩ := save_ok hv h
  have hlist := listing_replace hv hold hg hp (by simpa using hid)
  simp only [Rule.priority_eq, Rule.idOf_eq] at hlist
  rw [findAll_all, findAll_all, ht, hlist, List.map_insertIdx, hid]
  congr 1
  refine (hg.sub fun x hx => ?_).map_setPriority
  obtain ⟨hx, hne⟩ := List.mem_filter.mp hx
  exact hv.mem_others_iff.mpr ⟨mem_listing.mp hx, by simpa using hne⟩

theorem delete_of_valid (hv : s.table.Valid) (id : Nat) :
    (s.delete id).store.findAll {} = (s.findAll {}).filter (·.id ≠ some id) := by
  simp only [findAll_all, RuleStore.delete]
  split
  · exact listing_erase hv id
  · rename_i hc
    refine (List.filter_eq_self.mpr fun x hx => ?_).symm
    obtain ⟨e, he, rfl⟩ := List.mem_map.mp (mem_listing.mp hx)
    have hk : e.2.id = some e.1 := hv.keyed e he
    simp only [decide_eq_true_eq, hk, ne_eq, Option.some.injEq]
    rintro rfl
    exact hc (List.any_eq_true.mpr ⟨e, he, by simp⟩)

theorem swap_of_valid (hv : s.table.Valid) {id₁ id₂ : Nat} {c : Committed RuleStore Unit}
    (h : s.swap id₁ id₂ = .ok c) :
    ∃ r₁ r₂, s.findById id₁ = some r₁ ∧ s.findById id₂ = some r₂ ∧
      (c.store.findAll {}).map (·.withPriority 0) = (s.findAll {}).map fun x =>
        if x.id = some id₁ then r₂.withPriority 0 else if x.id = some id₂ then r₁.withPriority 0
        else x.withPriority 0 := by
  obtain ⟨r₁, r₂, h₁, h₂, ht, -⟩ := swap_ok h
  refine ⟨r₁, r₂, h₁, h₂, ?_⟩
  have hlist := listing_swap hv ((get?_eq_some_iff hv.ascending).mp h₁) ((get?_eq_some_iff hv.ascending).mp h₂)
  simp only [Rule.priority_eq, Rule.idOf_eq] at hlist
  rw [findAll_all, findAll_all, ht, hlist, List.map_map]
  refine List.map_congr_left fun x _ => ?_
  by_cases hx₁ : x.id = some id₁
  · simp [hx₁, Rule.withPriority]
  · by_cases hx₂ : x.id = some id₂
    · have hne : id₂ ≠ id₁ := fun he => hx₁ (hx₂.trans (congrArg some he))
      simp [hx₂, hne, Rule.withPriority]
    · simp [hx₁, hx₂, Rule.withPriority]

theorem shift_of_valid (hv : s.table.Valid) {start offset : Int} {c : Committed RuleStore Int}
    (h : s.shift start offset = .ok c) :
    (c.store.findAll {}).map (·.withPriority 0) = (s.findAll {}).map (·.withPriority 0) := by
  obtain ⟨hoff, ht, -⟩ := shift_ok hv h
  rw [findAll_all, findAll_all, ht, listing_map_room hv (RoomAt.bump hoff _)]
  exact (RoomAt.bump hoff s.table.listing).map_setPriority

/-- A payload setter whose new rule has the grant and priority of the old. -/
theorem payloadSet_of_put (hv : s.table.Valid) {id : Nat} {old : Rule} (hold : s.table.get? id = some old)
    (a : Access) (ha : a.grant = old.grant) {c : Committed RuleStore Unit}
    (ht : c.store.table = s.table.put id { old with access := a }) : s.PayloadSet id c :=
  ⟨old, a, hold, ha, by rw [findAll_all, findAll_all, ht]; exact listing_put hv hold rfl rfl⟩

end ListingLaws

theorem ListingLaws.of_valid {s : RuleStore} (hv : s.table.Valid) : s.ListingLaws where
  create _ _ _ h := ListingLaws.create_of_valid hv h
  save _ _ h := ListingLaws.save_of_valid hv h
  delete := ListingLaws.delete_of_valid hv
  swap _ _ _ h := ListingLaws.swap_of_valid hv h
  shift _ _ _ h := ListingLaws.shift_of_valid hv h
  setAllowedStyles id styles c h := by
    obtain ⟨old, d, hold, -, hacc, ht, -⟩ := setAllowedStyles_ok h
    exact ListingLaws.payloadSet_of_put hv hold _ (by simp [Rule.grant, hacc, Access.grant]) ht
  setLimits id limits c h := by
    obtain ⟨old, new, hold, hnew, ht, -⟩ := setLimits_ok h
    rcases hnew with ⟨hl, hnew⟩ | ⟨-, hnew⟩ <;> rw [hnew] at ht
    · exact ListingLaws.payloadSet_of_put hv hold (.limit limits) hl.symm ht
    · exact ListingLaws.payloadSet_of_put hv hold old.access rfl ht
  setLayerDetails id details c h := by
    obtain ⟨old, new, hold, -, hnew, ht, -⟩ := setLayerDetails_ok h
    rcases hnew with ⟨hl, hnew⟩ | ⟨-, hnew⟩ <;> rw [hnew] at ht
    · exact ListingLaws.payloadSet_of_put hv hold (.allow details) hl.symm ht
    · exact ListingLaws.payloadSet_of_put hv hold old.access rfl ht
  failed w _ h := by rw [RuleWrite.step_of_error h]

end RuleStore

/-! ## Admin rules -/

namespace AdminRuleStore

theorem findAll_all (s : AdminRuleStore) : s.findAll {} = s.table.listing := s.table.page_all

/-- What each write does to the listing of an admin store, admin rules
compared up to their priority. -/
structure ListingLaws (s : AdminRuleStore) : Prop where
  /-- A creation inserts the new admin rule where its position says. -/
  create : ∀ r pos (c : Committed AdminRuleStore AdminRule), s.create r pos = .ok c →
    (c.store.findAll {}).map (·.withPriority 0) =
      ((s.findAll {}).map (·.withPriority 0)).insertIdx
        (pos.index ((s.findAll {}).countP (·.priority < r.priority)) (s.findAll {}).length r.priority)
        ({ r with id := c.answer.id }.withPriority 0)
  /-- A save takes the old admin rule out and puts the new one after the
  others below its priority. -/
  save : ∀ r (c : Committed AdminRuleStore AdminRule), s.save r = .ok c →
    (c.store.findAll {}).map (·.withPriority 0) =
      (((s.findAll {}).filter (·.id ≠ r.id)).map (·.withPriority 0)).insertIdx
        (((s.findAll {}).filter (·.id ≠ r.id)).countP (·.priority < r.priority)) (r.withPriority 0)
  /-- A deletion removes the admin rule. -/
  delete : ∀ id, (s.delete id).store.findAll {} = (s.findAll {}).filter (·.id ≠ some id)
  /-- A swap exchanges the two admin rules in place. -/
  swap : ∀ id₁ id₂ (c : Committed AdminRuleStore Unit), s.swap id₁ id₂ = .ok c →
    ∃ r₁ r₂, s.findById id₁ = some r₁ ∧ s.findById id₂ = some r₂ ∧
      (c.store.findAll {}).map (·.withPriority 0) = (s.findAll {}).map fun x =>
        if x.id = some id₁ then r₂.withPriority 0 else if x.id = some id₂ then r₁.withPriority 0
        else x.withPriority 0
  /-- A shift keeps the order. -/
  shift : ∀ start offset (c : Committed AdminRuleStore Int), s.shift start offset = .ok c →
    (c.store.findAll {}).map (·.withPriority 0) = (s.findAll {}).map (·.withPriority 0)
  /-- A failed write changes nothing. -/
  failed : ∀ (w : AdminWrite) e, w.apply s = .error e → (w.step s).findAll {} = s.findAll {}

namespace ListingLaws

variable {s : AdminRuleStore}

theorem create_of_valid (hv : s.table.Valid) {r : AdminRule} {pos : InsertPosition}
    {c : Committed AdminRuleStore AdminRule} (h : s.create r pos = .ok c) :
    (c.store.findAll {}).map (·.withPriority 0) =
      ((s.findAll {}).map (·.withPriority 0)).insertIdx
        (pos.index ((s.findAll {}).countP (·.priority < r.priority)) (s.findAll {}).length r.priority)
        ({ r with id := c.answer.id }.withPriority 0) := by
  obtain ⟨-, hp, -, hans, -, g, hg, htop, ht⟩ := create_ok hv h
  have hP : priority c.answer = s.table.resolve r.priority pos := by rw [hans]; rfl
  have hid : idOf c.answer = some (s.table.lastId + 1) := by rw [hans]; rfl
  have hlist := listing_insert hv hg (resolve_nonneg hv hp pos) hP hid
  have hidx := countP_resolve hv r.priority pos htop
  simp only [AdminRule.priority_eq] at hlist hidx
  rw [findAll_all, findAll_all, ht, hlist, hidx, List.map_insertIdx]
  congr 1
  · exact (hg.sub fun _ hx => mem_listing.mp hx).map_setPriority
  · rw [hans]
    rfl

theorem save_of_valid (hv : s.table.Valid) {r : AdminRule} {c : Committed AdminRuleStore AdminRule}
    (h : s.save r = .ok c) :
    (c.store.findAll {}).map (·.withPriority 0) =
      (((s.findAll {}).filter (·.id ≠ r.id)).map (·.withPriority 0)).insertIdx
        (((s.findAll {}).filter (·.id ≠ r.id)).countP (·.priority < r.priority)) (r.withPriority 0) := by
  obtain ⟨id, old, hid, hp, hold, -, -, -, g, hg, ht⟩ := save_ok hv h
  have hlist := listing_replace hv hold hg hp (by simpa using hid)
  simp only [AdminRule.priority_eq, AdminRule.idOf_eq] at hlist
  rw [findAll_all, findAll_all, ht, hlist, List.map_insertIdx, hid]
  congr 1
  refine (hg.sub fun x hx => ?_).map_setPriority
  obtain ⟨hx, hne⟩ := List.mem_filter.mp hx
  exact hv.mem_others_iff.mpr ⟨mem_listing.mp hx, by simpa using hne⟩

theorem delete_of_valid (hv : s.table.Valid) (id : Nat) :
    (s.delete id).store.findAll {} = (s.findAll {}).filter (·.id ≠ some id) := by
  simp only [findAll_all, AdminRuleStore.delete]
  split
  · exact listing_erase hv id
  · rename_i hc
    refine (List.filter_eq_self.mpr fun x hx => ?_).symm
    obtain ⟨e, he, rfl⟩ := List.mem_map.mp (mem_listing.mp hx)
    have hk : e.2.id = some e.1 := hv.keyed e he
    simp only [decide_eq_true_eq, hk, ne_eq, Option.some.injEq]
    rintro rfl
    exact hc (List.any_eq_true.mpr ⟨e, he, by simp⟩)

theorem swap_of_valid (hv : s.table.Valid) {id₁ id₂ : Nat} {c : Committed AdminRuleStore Unit}
    (h : s.swap id₁ id₂ = .ok c) :
    ∃ r₁ r₂, s.findById id₁ = some r₁ ∧ s.findById id₂ = some r₂ ∧
      (c.store.findAll {}).map (·.withPriority 0) = (s.findAll {}).map fun x =>
        if x.id = some id₁ then r₂.withPriority 0 else if x.id = some id₂ then r₁.withPriority 0
        else x.withPriority 0 := by
  obtain ⟨r₁, r₂, h₁, h₂, ht, -⟩ := swap_ok h
  refine ⟨r₁, r₂, h₁, h₂, ?_⟩
  have hlist := listing_swap hv ((get?_eq_some_iff hv.ascending).mp h₁) ((get?_eq_some_iff hv.ascending).mp h₂)
  simp only [AdminRule.priority_eq, AdminRule.idOf_eq] at hlist
  rw [findAll_all, findAll_all, ht, hlist, List.map_map]
  refine List.map_congr_left fun x _ => ?_
  by_cases hx₁ : x.id = some id₁
  · simp [hx₁, AdminRule.withPriority]
  · by_cases hx₂ : x.id = some id₂
    · have hne : id₂ ≠ id₁ := fun he => hx₁ (hx₂.trans (congrArg some he))
      simp [hx₂, hne, AdminRule.withPriority]
    · simp [hx₁, hx₂, AdminRule.withPriority]

theorem shift_of_valid (hv : s.table.Valid) {start offset : Int} {c : Committed AdminRuleStore Int}
    (h : s.shift start offset = .ok c) :
    (c.store.findAll {}).map (·.withPriority 0) = (s.findAll {}).map (·.withPriority 0) := by
  obtain ⟨hoff, ht, -⟩ := shift_ok hv h
  rw [findAll_all, findAll_all, ht, listing_map_room hv (RoomAt.bump hoff _)]
  exact (RoomAt.bump hoff s.table.listing).map_setPriority

end ListingLaws

theorem ListingLaws.of_valid {s : AdminRuleStore} (hv : s.table.Valid) : s.ListingLaws where
  create _ _ _ h := ListingLaws.create_of_valid hv h
  save _ _ h := ListingLaws.save_of_valid hv h
  delete := ListingLaws.delete_of_valid hv
  swap _ _ _ h := ListingLaws.swap_of_valid hv h
  shift _ _ _ h := ListingLaws.shift_of_valid hv h
  failed w _ h := by rw [AdminWrite.step_of_error h]

end AdminRuleStore

/-! ## Both stores -/

/-- Every store a run of writes reaches, of rules and of admin rules alike,
lists its rules as an ordered list under each write. -/
theorem run_listing_laws (ws : List RuleWrite) (vs : List AdminWrite) :
    (RuleStore.run ws).ListingLaws ∧ (AdminRuleStore.run vs).ListingLaws :=
  ⟨.of_valid (RuleStore.valid_run ws), .of_valid (AdminRuleStore.valid_run vs)⟩

end GeoAccess
