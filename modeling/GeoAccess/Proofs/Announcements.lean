import GeoAccess.Proofs.Frame
import GeoAccess.Proofs.Invariants
import GeoAccess.Authorization.Service

/-!
# What each write announces

A store announces each change it commits as one event: a creation names the
new rule, a deletion the rule it removed, a save and each payload setter the
rule they rewrote, a swap its two rules, and a shift the rules it moved,
answering how many. A deletion of nothing and a shift that moves nothing
announce nothing, and neither does a refused write.

What an event leaves out is kept: every rule stored before and after a write,
under an identifier the event does not name, is unchanged but for its
priority, and two such rules keep their order (`Table.KeepsUnnamed`). The
moves of creations and saves go unannounced because they keep the order; a
swap names both its rules because it reorders them against the others.

* `Table.KeepsUnnamed.of_keeps`: the frame of `RuleWrite.keeps_apply`, read
  rule by rule in valid tables;
* `RuleStore.EventLaws`, `AdminRuleStore.EventLaws`: the change each write
  announces and what it keeps, in every valid store (`EventLaws.of_valid`);
* `writes_announce_their_changes`: both for every store a run of writes
  reaches, and a refused write announcing nothing.
-/

namespace GeoAccess

open Prioritized LawfulPrioritized Table

/-- The identifiers a write's change names, none when it announces none. -/
def AclEvent.named : Option AclEvent → List Nat
  | none => []
  | some e => e.ruleIds

namespace Table

variable {α : Type} [Prioritized α] [LawfulPrioritized α]

/-- `t'` keeps the entries of `t` under every identifier outside `named`: an
entry stored under such an identifier before and after is unchanged but for
its priority, and two such entries keep their order. -/
structure KeepsUnnamed (named : List Nat) (t t' : Table α) : Prop where
  same : ∀ k a b, k ∉ named → t.get? k = some a → t'.get? k = some b → b = setPriority a (priority b)
  order : ∀ k₁ k₂ a₁ a₂ b₁ b₂, k₁ ∉ named → k₂ ∉ named → t.get? k₁ = some a₁ → t.get? k₂ = some a₂ →
    t'.get? k₁ = some b₁ → t'.get? k₂ = some b₂ → (priority a₁ < priority a₂ ↔ priority b₁ < priority b₂)

/-- A change between valid tables that keeps the entries under every list of
identifiers outside `named`, up to an order-keeping move of priorities, keeps
each of them but for its priority, and the order of any two both ways: two
entries of one priority are one entry. -/
theorem KeepsUnnamed.of_keeps {t t' : Table α} (hv : t.Valid) (hv' : t'.Valid) {named : List Nat}
    (h : ∀ N : List Nat, (∀ k ∈ N, k ∉ named) → t.Keeps N t') : KeepsUnnamed named t t' where
  same k a b hk ha hb := by
    obtain ⟨g, hg⟩ := h [k] (by simpa using hk)
    have hk' : k ∈ [k] := List.mem_singleton_self k
    have hgb := hg.get? hv.ascending hv'.ascending hk' ha
    rw [hb, Option.some.injEq] at hgb
    subst hgb
    exact eq_setPriority_of_same (hg.same (k, a) ((get?_eq_some_iff hv.ascending).mp ha) hk')
  order k₁ k₂ a₁ a₂ b₁ b₂ hk₁ hk₂ ha₁ ha₂ hb₁ hb₂ := by
    obtain ⟨g, hg⟩ := h [k₁, k₂] (by simp [hk₁, hk₂])
    have hm₁ : k₁ ∈ [k₁, k₂] := by simp
    have hm₂ : k₂ ∈ [k₁, k₂] := by simp
    have he₁ := (get?_eq_some_iff hv.ascending).mp ha₁
    have he₂ := (get?_eq_some_iff hv.ascending).mp ha₂
    have hgb₁ := hg.get? hv.ascending hv'.ascending hm₁ ha₁
    have hgb₂ := hg.get? hv.ascending hv'.ascending hm₂ ha₂
    rw [hb₁, Option.some.injEq] at hgb₁
    rw [hb₂, Option.some.injEq] at hgb₂
    subst hgb₁ hgb₂
    refine ⟨hg.order _ he₁ hm₁ _ he₂ hm₂, fun hlt => ?_⟩
    rcases Int.lt_trichotomy (priority a₁) (priority a₂) with h' | h' | h'
    · exact h'
    · cases hv.distinct _ he₁ _ he₂ h'
      exact absurd hlt (Int.lt_irrefl _)
    · exact absurd (hg.order _ he₂ hm₂ _ he₁ hm₁ h') (Int.lt_asymm hlt)

omit [LawfulPrioritized α] in
/-- The rules a shift moves are as many as the stored ones at or after its
start. -/
theorem moved_length (t : Table α) (start : Int) :
    ((t.entries.filter fun e => start ≤ priority e.2).map (·.1)).length =
      (t.values.filter (start ≤ priority ·)).length := by
  simp only [values, List.filter_map, List.length_map]
  rfl

omit [LawfulPrioritized α] in
/-- The rules a shift moves are the stored ones at or after its start. -/
theorem mem_moved {t : Table α} (ht : Ascending t.entries) (start : Int) (k : Nat) :
    k ∈ (t.entries.filter fun e => start ≤ priority e.2).map (·.1) ↔
      ∃ a, t.get? k = some a ∧ start ≤ priority a := by
  constructor
  · rintro hk
    obtain ⟨e, he, rfl⟩ := List.mem_map.mp hk
    obtain ⟨he, hs⟩ := List.mem_filter.mp he
    exact ⟨e.2, (get?_eq_some_iff ht).mpr he, by simpa using hs⟩
  · rintro ⟨a, ha, hs⟩
    exact List.mem_map.mpr ⟨(k, a), List.mem_filter.mpr ⟨(get?_eq_some_iff ht).mp ha, by simpa using hs⟩, rfl⟩

/-- No stored entry has the identifier after the last one handed out. -/
theorem Valid.get?_next {t : Table α} (hv : t.Valid) : t.get? (t.lastId + 1) = none := by
  refine Option.eq_none_iff_forall_ne_some.mpr fun x hx => ?_
  have := hv.bounded _ ((get?_eq_some_iff hv.ascending).mp hx)
  omega

omit [LawfulPrioritized α] in
/-- What a shift answers and announces, read off the stored entries: the
entries at or after its start are announced, exactly, as updated and counted,
or, when there are none, nothing is announced and the answer is `-1`. -/
theorem shift_announced {t : Table α} (ht : Ascending t.entries) (start : Int) (kind : RuleKind)
    {answer : Int} {ev : Option AclEvent}
    (hans : answer = if (t.entries.filter fun e => start ≤ priority e.2).map (·.1) = [] then (-1 : Int)
      else (((t.entries.filter fun e => start ≤ priority e.2).map (·.1)).length : Int))
    (hev : ev = if (t.entries.filter fun e => start ≤ priority e.2).map (·.1) = [] then none
      else some (AclEvent.updated kind ((t.entries.filter fun e => start ≤ priority e.2).map (·.1)))) :
    answer = (if t.values.filter (start ≤ priority ·) = [] then -1
      else ((t.values.filter (start ≤ priority ·)).length : Int)) ∧
    (ev = none ↔ t.values.filter (start ≤ priority ·) = []) ∧
    ∀ e ∈ ev, e.kind = kind ∧ e.eventType = .updated ∧
      ∀ k, k ∈ e.ruleIds ↔ ∃ a, t.get? k = some a ∧ start ≤ priority a := by
  have hlen := moved_length t start
  have hnil : (t.entries.filter fun e => start ≤ priority e.2).map (·.1) = [] ↔
      t.values.filter (start ≤ priority ·) = [] := by
    rw [← List.length_eq_zero_iff, ← List.length_eq_zero_iff, hlen]
  refine ⟨?_, ?_, fun e he => ?_⟩
  · by_cases hm : (t.entries.filter fun e => start ≤ priority e.2).map (·.1) = []
    · rw [hans, if_pos hm, if_pos (hnil.mp hm)]
    · rw [hans, if_neg hm, if_neg (mt hnil.mpr hm), hlen]
  · by_cases hm : (t.entries.filter fun e => start ≤ priority e.2).map (·.1) = []
    · simp [hev, hm, hnil.mp hm]
    · simp [hev, hm, mt hnil.mpr hm]
  · rw [hev] at he
    split at he
    · cases he
    · cases Option.mem_def.mp he
      refine ⟨rfl, rfl, fun k => ?_⟩
      simp only [AclEvent.updated, AclEvent.make, OrdSet.mem_ofList]
      exact mem_moved ht start k

end Table

/-! ## The rule store -/

namespace RuleWrite

variable {s : RuleStore}

/-- A committed write keeps every rule its change does not name. -/
theorem keepsUnnamed_apply (hv : s.table.Valid) {w : RuleWrite} {c : Committed RuleStore Unit}
    (h : w.apply s = .ok c) : s.table.KeepsUnnamed (AclEvent.named c.event) c.store.table :=
  .of_keeps hv (valid_apply hv h).1 fun _ hN =>
    keeps_apply hv h fun e he id hid hn => hN id hid (by rw [Option.mem_def.mp he]; exact hn.2.2)

end RuleWrite

namespace RuleStore

/-- The change each write of the rule store announces when it commits, and
what it keeps of the rules the change does not name. -/
structure EventLaws (s : RuleStore) : Prop where
  /-- A creation announces its rule, under an identifier no stored rule had. -/
  create : ∀ r pos (c : Committed RuleStore Rule), s.create r pos = .ok c →
    ∃ id, c.answer.id = some id ∧ s.findById id = none ∧ c.store.findById id = some c.answer ∧
      c.event = some (AclEvent.created .rule id)
  /-- A deletion announces the rule it removed, and nothing when there was none. -/
  delete : ∀ id, (s.delete id).event = if s.existsById id then some (AclEvent.deleted .rule id) else none
  /-- A save announces its rule as updated. -/
  save : ∀ r (c : Committed RuleStore Rule), s.save r = .ok c →
    ∃ id, r.id = some id ∧ c.event = some (AclEvent.updated .rule [id])
  /-- A shift moves the rules at or after its start: it announces exactly those
  as updated and answers how many, or, when there are none, announces nothing
  and answers `-1`. -/
  shift : ∀ start offset (c : Committed RuleStore Int), s.shift start offset = .ok c →
    c.answer = (if s.table.values.filter (start ≤ ·.priority) = [] then -1
      else ((s.table.values.filter (start ≤ ·.priority)).length : Int)) ∧
    (c.event = none ↔ s.table.values.filter (start ≤ ·.priority) = []) ∧
    ∀ e ∈ c.event, e.kind = .rule ∧ e.eventType = .updated ∧
      ∀ k, k ∈ e.ruleIds ↔ ∃ x, s.findById k = some x ∧ start ≤ x.priority
  /-- A swap announces both its rules as updated. -/
  swap : ∀ id₁ id₂ (c : Committed RuleStore Unit), s.swap id₁ id₂ = .ok c →
    c.event = some (AclEvent.updated .rule [id₁, id₂])
  setAllowedStyles : ∀ id styles (c : Committed RuleStore Unit), s.setAllowedStyles id styles = .ok c →
    c.event = some (AclEvent.updated .rule [id])
  setLimits : ∀ id limits (c : Committed RuleStore Unit), s.setLimits id limits = .ok c →
    c.event = some (AclEvent.updated .rule [id])
  setLayerDetails : ∀ id details (c : Committed RuleStore Unit), s.setLayerDetails id details = .ok c →
    c.event = some (AclEvent.updated .rule [id])
  /-- Every committed write keeps the rules its change does not name. -/
  frame : ∀ (w : RuleWrite) (c : Committed RuleStore Unit), w.apply s = .ok c →
    s.table.KeepsUnnamed (AclEvent.named c.event) c.store.table

namespace EventLaws

variable {s : RuleStore}

/-- A creation hands out the identifier after the last one, which no stored
rule has, and stores its rule there. -/
theorem create_of_valid (hv : s.table.Valid) {r : Rule} {pos : InsertPosition}
    {c : Committed RuleStore Rule} (h : s.create r pos = .ok c) :
    ∃ id, c.answer.id = some id ∧ s.findById id = none ∧ c.store.findById id = some c.answer ∧
      c.event = some (AclEvent.created .rule id) := by
  obtain ⟨-, -, -, -, hans, hev, g, -, -, ht⟩ := create_ok hv h
  have happ : (RuleWrite.create r pos).apply s = .ok c.drop := by simp [RuleWrite.apply, h, Except.map]
  have hv' : c.store.table.Valid := (RuleWrite.valid_apply hv happ).1
  refine ⟨s.table.lastId + 1, by rw [hans], hv.get?_next, ?_, hev⟩
  exact (get?_eq_some_iff hv'.ascending).mpr (by rw [ht]; simp)

theorem shift_of_valid (hv : s.table.Valid) {start offset : Int} {c : Committed RuleStore Int}
    (h : s.shift start offset = .ok c) :
    c.answer = (if s.table.values.filter (start ≤ ·.priority) = [] then -1
      else ((s.table.values.filter (start ≤ ·.priority)).length : Int)) ∧
    (c.event = none ↔ s.table.values.filter (start ≤ ·.priority) = []) ∧
    ∀ e ∈ c.event, e.kind = .rule ∧ e.eventType = .updated ∧
      ∀ k, k ∈ e.ruleIds ↔ ∃ x, s.findById k = some x ∧ start ≤ x.priority := by
  obtain ⟨-, -, hans, hev⟩ := shift_ok hv h
  exact shift_announced hv.ascending start .rule hans hev

end EventLaws

theorem EventLaws.of_valid {s : RuleStore} (hv : s.table.Valid) : s.EventLaws where
  create _ _ _ h := EventLaws.create_of_valid hv h
  delete id := by
    unfold RuleStore.delete RuleStore.existsById
    split <;> rfl
  save _ _ h := by
    obtain ⟨id, -, hid, -, -, -, -, -, hev, -⟩ := save_ok hv h
    exact ⟨id, hid, hev⟩
  shift _ _ _ h := EventLaws.shift_of_valid hv h
  swap _ _ _ h := by
    obtain ⟨-, -, -, -, -, hev⟩ := swap_ok h
    exact hev
  setAllowedStyles _ _ _ h := by
    obtain ⟨-, -, -, -, -, -, hev⟩ := setAllowedStyles_ok h
    exact hev
  setLimits _ _ _ h := by
    obtain ⟨-, -, -, -, -, hev⟩ := setLimits_ok h
    exact hev
  setLayerDetails _ _ _ h := by
    obtain ⟨-, -, -, -, -, -, hev⟩ := setLayerDetails_ok h
    exact hev
  frame _ _ h := RuleWrite.keepsUnnamed_apply hv h

end RuleStore

/-! ## The admin rule store -/

namespace AdminWrite

variable {s : AdminRuleStore}

/-- A committed write keeps every admin rule its change does not name. -/
theorem keepsUnnamed_apply (hv : s.table.Valid) {w : AdminWrite} {c : Committed AdminRuleStore Unit}
    (h : w.apply s = .ok c) : s.table.KeepsUnnamed (AclEvent.named c.event) c.store.table :=
  .of_keeps hv (valid_apply hv h).1 fun _ hN =>
    keeps_apply hv h fun e he id hid hn => hN id hid (by rw [Option.mem_def.mp he]; exact hn.2.2)

end AdminWrite

namespace AdminRuleStore

/-- The change each write of the admin rule store announces when it commits,
and what it keeps of the admin rules the change does not name. -/
structure EventLaws (s : AdminRuleStore) : Prop where
  /-- A creation announces its admin rule, under an identifier no stored one had. -/
  create : ∀ r pos (c : Committed AdminRuleStore AdminRule), s.create r pos = .ok c →
    ∃ id, c.answer.id = some id ∧ s.findById id = none ∧ c.store.findById id = some c.answer ∧
      c.event = some (AclEvent.created .adminRule id)
  /-- A deletion announces the admin rule it removed, and nothing when there
  was none. -/
  delete : ∀ id, (s.delete id).event =
    if s.existsById id then some (AclEvent.deleted .adminRule id) else none
  /-- A save announces its admin rule as updated. -/
  save : ∀ r (c : Committed AdminRuleStore AdminRule), s.save r = .ok c →
    ∃ id, r.id = some id ∧ c.event = some (AclEvent.updated .adminRule [id])
  /-- A shift announces exactly the admin rules at or after its start as
  updated and answers how many, or, when there are none, announces nothing and
  answers `-1`. -/
  shift : ∀ start offset (c : Committed AdminRuleStore Int), s.shift start offset = .ok c →
    c.answer = (if s.table.values.filter (start ≤ ·.priority) = [] then -1
      else ((s.table.values.filter (start ≤ ·.priority)).length : Int)) ∧
    (c.event = none ↔ s.table.values.filter (start ≤ ·.priority) = []) ∧
    ∀ e ∈ c.event, e.kind = .adminRule ∧ e.eventType = .updated ∧
      ∀ k, k ∈ e.ruleIds ↔ ∃ x, s.findById k = some x ∧ start ≤ x.priority
  /-- A swap announces both its admin rules as updated. -/
  swap : ∀ id₁ id₂ (c : Committed AdminRuleStore Unit), s.swap id₁ id₂ = .ok c →
    c.event = some (AclEvent.updated .adminRule [id₁, id₂])
  /-- Every committed write keeps the admin rules its change does not name. -/
  frame : ∀ (w : AdminWrite) (c : Committed AdminRuleStore Unit), w.apply s = .ok c →
    s.table.KeepsUnnamed (AclEvent.named c.event) c.store.table

/-- A creation hands out the identifier after the last one, which no stored
admin rule has, and stores its admin rule there. -/
theorem EventLaws.create_of_valid {s : AdminRuleStore} (hv : s.table.Valid) {r : AdminRule}
    {pos : InsertPosition} {c : Committed AdminRuleStore AdminRule} (h : s.create r pos = .ok c) :
    ∃ id, c.answer.id = some id ∧ s.findById id = none ∧ c.store.findById id = some c.answer ∧
      c.event = some (AclEvent.created .adminRule id) := by
  obtain ⟨-, -, -, hans, hev, g, -, -, ht⟩ := create_ok hv h
  have happ : (AdminWrite.create r pos).apply s = .ok c.drop := by simp [AdminWrite.apply, h, Except.map]
  have hv' : c.store.table.Valid := (AdminWrite.valid_apply hv happ).1
  refine ⟨s.table.lastId + 1, by rw [hans], hv.get?_next, ?_, hev⟩
  exact (get?_eq_some_iff hv'.ascending).mpr (by rw [ht]; simp)

theorem EventLaws.of_valid {s : AdminRuleStore} (hv : s.table.Valid) : s.EventLaws where
  create _ _ _ h := EventLaws.create_of_valid hv h
  delete id := by
    unfold AdminRuleStore.delete AdminRuleStore.existsById
    split <;> rfl
  save _ _ h := by
    obtain ⟨id, -, hid, -, -, -, -, hev, -⟩ := save_ok hv h
    exact ⟨id, hid, hev⟩
  shift start _ _ h := by
    obtain ⟨-, -, hans, hev⟩ := shift_ok hv h
    exact shift_announced hv.ascending start .adminRule hans hev
  swap _ _ _ h := by
    obtain ⟨-, -, -, -, -, hev⟩ := swap_ok h
    exact hev
  frame _ _ h := AdminWrite.keepsUnnamed_apply hv h

end AdminRuleStore

/-! ## Every run -/

/-- Every store a run of writes reaches, of rules and of admin rules alike,
announces each change it commits as its `EventLaws` say, one event naming the
rules the change concerns, and keeps the rules an event leaves out but for
their priorities, in their order; a refused write, on either store, leaves a
service as it was and reports no change. -/
theorem writes_announce_their_changes (ws : List RuleWrite) (vs : List AdminWrite) :
    (RuleStore.run ws).EventLaws ∧ (AdminRuleStore.run vs).EventLaws ∧
      (∀ (svc : Service) (w : RuleWrite) e, w.apply svc.rules = .error e →
        svc.writeRules w.apply = (.error e, [], svc)) ∧
      ∀ (svc : Service) (w : AdminWrite) e, w.apply svc.adminRules = .error e →
        svc.writeAdminRules w.apply = (.error e, [], svc) := by
  refine ⟨.of_valid (RuleStore.valid_run ws), .of_valid (AdminRuleStore.valid_run vs),
    fun svc w e h => ?_, fun svc w e h => ?_⟩
  · simp only [Service.writeRules, h]
  · simp only [Service.writeAdminRules, h]

end GeoAccess
