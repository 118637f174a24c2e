import GeoAccess.Authorization.Service
import GeoAccess.Proofs.Frame
import GeoAccess.Proofs.Decision
import Mathlib.Data.List.Induction

/-!
# Cached answers stay sound

A service with a cache answers a repeated access request from the cache. Every
change a store makes is delivered to the cache as it is made, and the cache
forgets the answers resting on a rule that an update or a deletion names. A
cached answer outlives the changes that name none of its rules: creations,
writes on other rules, and the moves by which creations and saves make room.
Those move priorities only, and in order (`RuleWrite.keeps_apply`), and a
decision reads priorities only through their order (`coalesce_map`).

So in every run of a fresh service (`Service.fresh`, then writes on either
store, queries and extra changes in any order), each access answer rests on
rules that are still stored, unchanged but for their priorities, and is the
decision on them as they now stand (`access_answers_sound`). The invariant is
that each cached answer was the engine's answer in an earlier state of the
run, and that the stores have since kept the rules it names (`Service.Kept`,
`Service.kept_run`).
-/

namespace GeoAccess

open Table

/-! ## Changes and cached answers -/

/-- A change spares an answer when it names none of the rules the answer
rests on. -/
def AclEvent.Spares (e : AclEvent) (v : AccessInfo) : Prop :=
  (∀ id ∈ v.matchingRuleIds, ¬ e.Names .rule id) ∧ ∀ a ∈ v.matchingAdminRuleId, ¬ e.Names .adminRule a

namespace AnswerCache

/-- An access answer still cached after a change was cached before, and the
change spares it. -/
theorem mem_handleEvent {c : AnswerCache} {e : AclEvent} {q : AccessRequest} {v : AccessInfo}
    (h : (q, v) ∈ (c.handleEvent e).access) : (q, v) ∈ c.access ∧ e.Spares v := by
  unfold handleEvent at h
  split at h
  · rename_i hinv
    have hno : ∀ k id, ¬ e.Names k id := fun _ _ hn => by simp [hn.1] at hinv
    exact ⟨h, fun id _ => hno _ id, fun a _ => hno _ a⟩
  · split at h
    · rename_i hk
      obtain ⟨hmem, hkeep⟩ := List.mem_filter.mp h
      simp only [Bool.not_eq_true', List.any_eq_false, AccessInfo.dependsOnRule,
        List.contains_iff_mem] at hkeep
      refine ⟨hmem, fun id hid hn => hkeep id hn.2.2 (by simpa using hid), fun a _ hn => ?_⟩
      exact absurd (hn.2.1.symm.trans hk) (by decide)
    · rename_i hk
      obtain ⟨hmem, hkeep⟩ := List.mem_filter.mp h
      simp only [Bool.not_eq_true', List.any_eq_false, AccessInfo.dependsOnAdminRule,
        beq_iff_eq] at hkeep
      refine ⟨hmem, fun id _ hn => absurd (hn.2.1.symm.trans hk) (by decide), fun a ha hn => ?_⟩
      exact hkeep a hn.2.2 (Option.mem_def.mp ha)

theorem mem_putAccess {c : AnswerCache} {q' : AccessRequest} {i : AccessInfo} {qv : AccessRequest × AccessInfo}
    (h : qv ∈ (c.putAccess q' i).access) : qv = (q', i) ∨ qv ∈ c.access := by
  rcases List.mem_cons.mp h with h | h
  · exact .inl h
  · exact .inr (List.mem_filter.mp h).1

theorem mem_of_findAccess? {c : AnswerCache} {q : AccessRequest} {v : AccessInfo}
    (h : c.findAccess? q = some v) : (q, v) ∈ c.access := by
  obtain ⟨l₁, l₂, hl, -⟩ := List.lookup_eq_some_iff.mp h
  rw [hl]
  exact List.mem_append_right _ List.mem_cons_self

end AnswerCache

/-! ## Runs of a service -/

namespace Service

/-- One step of a run of a service: a write on either store, a query, or a
change handed to the cache. -/
inductive Step where
  | rules (w : RuleWrite)
  | adminRules (w : AdminWrite)
  | access (q : AccessRequest)
  | admin (q : AdminAccessRequest)
  | event (e : AclEvent)

/-- The service after a step. -/
def step (s : Service) : Step → Service
  | .rules w => (s.writeRules w.apply).2.2
  | .adminRules w => (s.writeAdminRules w.apply).2.2
  | .access q => (s.access q).2
  | .admin q => (s.adminAuthorization q).2
  | .event e => s.handleEvent e

/-- The service after a run of steps. -/
def run (s : Service) (steps : List Step) : Service := steps.foldl step s

/-- A service with empty stores and an empty cache, to which every change is
delivered as it is made. -/
def fresh (g : GeometryEngine) : Service :=
  { geometry := g, cache := some {}, delivery := .immediate }

theorem run_append_single (s : Service) (steps : List Step) (st : Step) :
    s.run (steps ++ [st]) = (s.run steps).step st := by
  simp [run]

variable {s : Service}

/-! ### What each step changes -/

@[simp] theorem announce_rules (s : Service) (ev : Option AclEvent) : (s.announce ev).1.rules = s.rules := by
  unfold announce; split <;> (try split) <;> rfl

@[simp] theorem announce_adminRules (s : Service) (ev : Option AclEvent) :
    (s.announce ev).1.adminRules = s.adminRules := by
  unfold announce; split <;> (try split) <;> rfl

@[simp] theorem announce_geometry (s : Service) (ev : Option AclEvent) :
    (s.announce ev).1.geometry = s.geometry := by
  unfold announce; split <;> (try split) <;> rfl

@[simp] theorem announce_delivery (s : Service) (ev : Option AclEvent) :
    (s.announce ev).1.delivery = s.delivery := by
  unfold announce; split <;> (try split) <;> rfl

/-- A change delivered as it is made reaches the cache: an answer still
cached was cached before, and the change spares it. -/
theorem mem_announce (hd : s.delivery = .immediate) {ev : Option AclEvent} {c' : AnswerCache}
    (hc' : (s.announce ev).1.cache = some c') {q : AccessRequest} {v : AccessInfo} (h : (q, v) ∈ c'.access) :
    ∃ c, s.cache = some c ∧ (q, v) ∈ c.access ∧ ∀ e ∈ ev, e.Spares v := by
  cases ev with
  | none => exact ⟨c', hc', h, fun _ he => nomatch he⟩
  | some e =>
    simp only [announce, hd, handleEvent, Option.map_eq_some_iff] at hc'
    obtain ⟨c, hc, rfl⟩ := hc'
    obtain ⟨hmem, hspare⟩ := AnswerCache.mem_handleEvent h
    exact ⟨c, hc, hmem, fun e' he' => Option.some.inj he' ▸ hspare⟩

theorem writeRules_ok {α : Type} {w : RuleStore → Except StoreError (Committed RuleStore α)}
    {c : Committed RuleStore α} (h : w s.rules = .ok c) :
    (s.writeRules w).2.2 = ({ s with rules := c.store }.announce c.event).1 := by
  simp only [writeRules, h]

theorem writeRules_error {α : Type} {w : RuleStore → Except StoreError (Committed RuleStore α)}
    {e : StoreError} (h : w s.rules = .error e) : (s.writeRules w).2.2 = s := by
  simp only [writeRules, h]

theorem writeAdminRules_ok {α : Type} {w : AdminRuleStore → Except StoreError (Committed AdminRuleStore α)}
    {c : Committed AdminRuleStore α} (h : w s.adminRules = .ok c) :
    (s.writeAdminRules w).2.2 = ({ s with adminRules := c.store }.announce c.event).1 := by
  simp only [writeAdminRules, h]

theorem writeAdminRules_error {α : Type} {w : AdminRuleStore → Except StoreError (Committed AdminRuleStore α)}
    {e : StoreError} (h : w s.adminRules = .error e) : (s.writeAdminRules w).2.2 = s := by
  simp only [writeAdminRules, h]

/-- An access query leaves the service as it was, or caches the engine's
answer. -/
theorem access_cases (q : AccessRequest) :
    (s.access q).2 = s ∨
      ∃ c i, s.cache = some c ∧ s.engine.accessInfo q = .ok i ∧ (s.access q).2 = { s with cache := some (c.putAccess q i) } := by
  unfold access
  split
  · exact .inl rfl
  · rename_i c hc
    split
    · exact .inl rfl
    · split
      · rename_i i hi
        exact .inr ⟨c, i, hc, hi, rfl⟩
      · exact .inl rfl

/-- An admin query leaves the service as it was, or caches an admin answer. -/
theorem adminAuthorization_cases (q : AdminAccessRequest) :
    (s.adminAuthorization q).2 = s ∨
      ∃ c i, s.cache = some c ∧ (s.adminAuthorization q).2 = { s with cache := some (c.putAdmin q i) } := by
  unfold adminAuthorization
  split
  · exact .inl rfl
  · rename_i c hc
    split
    · exact .inl rfl
    · exact .inr ⟨c, _, hc, rfl⟩

/-- An access answer is the engine's answer now, or one the cache holds. -/
theorem access_ok {q : AccessRequest} {v : AccessInfo} (h : (s.access q).1.value = .ok v) :
    s.engine.accessInfo q = .ok v ∨ ∃ c, s.cache = some c ∧ (q, v) ∈ c.access := by
  unfold access at h
  split at h
  · exact .inl h
  · rename_i c hc
    split at h
    · rename_i i hi
      cases h
      exact .inr ⟨c, hc, AnswerCache.mem_of_findAccess? hi⟩
    · split at h
      · rename_i i hi
        exact .inl (hi.trans h)
      · cases h

/-- Everything a step can do: commit a write on either store and deliver the
change it announces, leave the service as it was (a failed write, a query
answered from the cache, a failed query), cache the engine's access answer or
an admin answer, or deliver a change. -/
theorem step_cases (s : Service) (st : Step) :
    (∃ (w : RuleWrite) (c : Committed RuleStore Unit), w.apply s.rules = .ok c ∧
        s.step st = ({ s with rules := c.store }.announce c.event).1) ∨
      (∃ (w : AdminWrite) (c : Committed AdminRuleStore Unit), w.apply s.adminRules = .ok c ∧
        s.step st = ({ s with adminRules := c.store }.announce c.event).1) ∨
      s.step st = s ∨
      (∃ c q i, s.cache = some c ∧ s.engine.accessInfo q = .ok i ∧
        s.step st = { s with cache := some (c.putAccess q i) }) ∨
      (∃ c q i, s.cache = some c ∧ s.step st = { s with cache := some (c.putAdmin q i) }) ∨
      ∃ e, s.step st = s.handleEvent e := by
  cases st with
  | rules w =>
    cases hw : w.apply s.rules with
    | ok c => exact .inl ⟨w, c, hw, writeRules_ok hw⟩
    | error e => exact .inr (.inr (.inl (writeRules_error hw)))
  | adminRules w =>
    cases hw : w.apply s.adminRules with
    | ok c => exact .inr (.inl ⟨w, c, hw, writeAdminRules_ok hw⟩)
    | error e => exact .inr (.inr (.inl (writeAdminRules_error hw)))
  | access q =>
    rcases access_cases (s := s) q with h | ⟨c, i, hc, hi, h⟩
    · exact .inr (.inr (.inl h))
    · exact .inr (.inr (.inr (.inl ⟨c, q, i, hc, hi, h⟩)))
  | admin q =>
    rcases adminAuthorization_cases (s := s) q with h | ⟨c, i, hc, h⟩
    · exact .inr (.inr (.inl h))
    · exact .inr (.inr (.inr (.inr (.inl ⟨c, q, i, hc, h⟩))))
  | event e => exact .inr (.inr (.inr (.inr (.inr ⟨e, rfl⟩))))

@[simp] theorem geometry_step (s : Service) (st : Step) : (s.step st).geometry = s.geometry := by
  rcases step_cases s st with ⟨_, _, -, h⟩ | ⟨_, _, -, h⟩ | h | ⟨_, _, _, -, -, h⟩ | ⟨_, _, _, -, h⟩ | ⟨_, h⟩ <;>
    simp [h, handleEvent]

@[simp] theorem delivery_step (s : Service) (st : Step) : (s.step st).delivery = s.delivery := by
  rcases step_cases s st with ⟨_, _, -, h⟩ | ⟨_, _, -, h⟩ | h | ⟨_, _, _, -, -, h⟩ | ⟨_, _, _, -, h⟩ | ⟨_, h⟩ <;>
    simp [h, handleEvent]

/-- A step keeps both stores valid: a write changes its store as the write
does, and no other step changes a store. -/
theorem valid_step (hv : s.rules.table.Valid) (hva : s.adminRules.table.Valid) (st : Step) :
    (s.step st).rules.table.Valid ∧ (s.step st).adminRules.table.Valid := by
  rcases step_cases s st with ⟨w, c, hw, h⟩ | ⟨w, c, hw, h⟩ | h | ⟨_, _, _, -, -, h⟩ | ⟨_, _, _, -, h⟩ | ⟨_, h⟩ <;>
    rw [h]
  · simpa using ⟨(RuleWrite.valid_apply hv hw).1, hva⟩
  · simpa using ⟨hv, (AdminWrite.valid_apply hva hw).1⟩
  all_goals exact ⟨hv, hva⟩

/-- What a step does to the cached access answers: each one it keeps was
cached before, and the stores keep the rules it names, since the step's change
spares it; each one it adds is the engine's answer before the step, which
changes no store. -/
theorem mem_cache_step (hd : s.delivery = .immediate) (hv : s.rules.table.Valid)
    (hva : s.adminRules.table.Valid) (st : Step) {c' : AnswerCache} (hc' : (s.step st).cache = some c')
    {q : AccessRequest} {v : AccessInfo} (h : (q, v) ∈ c'.access) :
    (∃ c, s.cache = some c ∧ (q, v) ∈ c.access ∧
        s.rules.table.Keeps v.matchingRuleIds (s.step st).rules.table ∧
        s.adminRules.table.Keeps v.matchingAdminRuleId.toList (s.step st).adminRules.table) ∨
      (s.engine.accessInfo q = .ok v ∧ (s.step st).rules = s.rules ∧ (s.step st).adminRules = s.adminRules) := by
  rcases step_cases s st with ⟨w, c, hw, hs⟩ | ⟨w, c, hw, hs⟩ | hs | ⟨c, q', i, hc, hi, hs⟩ | ⟨c, q', i, hc, hs⟩ |
    ⟨e, hs⟩ <;> rw [hs] at hc' ⊢
  · obtain ⟨c₀, hc₀, hmem, hspare⟩ := mem_announce (s := { s with rules := c.store }) hd hc' h
    refine .inl ⟨c₀, hc₀, hmem, ?_, by simpa using Keeps.refl _⟩
    simpa using RuleWrite.keeps_apply hv hw fun e he => (hspare e he).1
  · obtain ⟨c₀, hc₀, hmem, hspare⟩ := mem_announce (s := { s with adminRules := c.store }) hd hc' h
    refine .inl ⟨c₀, hc₀, hmem, by simpa using Keeps.refl _, ?_⟩
    simpa using AdminWrite.keeps_apply hva hw fun e he a ha => (hspare e he).2 a (by simpa using ha)
  · exact .inl ⟨c', hc', h, Keeps.refl _, Keeps.refl _⟩
  · cases hc'
    rcases AnswerCache.mem_putAccess h with hnew | hold
    · obtain ⟨rfl, rfl⟩ := Prod.mk.inj hnew
      exact .inr ⟨hi, rfl, rfl⟩
    · exact .inl ⟨c, hc, hold, Keeps.refl _, Keeps.refl _⟩
  · cases hc'
    exact .inl ⟨c, hc, h, Keeps.refl _, Keeps.refl _⟩
  · simp only [handleEvent, Option.map_eq_some_iff] at hc'
    obtain ⟨c, hc, rfl⟩ := hc'
    exact .inl ⟨c, hc, (AnswerCache.mem_handleEvent h).1, Keeps.refl _, Keeps.refl _⟩

/-! ### Runs -/

theorem delivery_run (s : Service) (steps : List Step) : (s.run steps).delivery = s.delivery := by
  induction steps generalizing s with
  | nil => rfl
  | cons st steps ih => exact (ih (s.step st)).trans (delivery_step s st)

theorem valid_run (hv : s.rules.table.Valid) (hva : s.adminRules.table.Valid) (steps : List Step) :
    (s.run steps).rules.table.Valid ∧ (s.run steps).adminRules.table.Valid := by
  induction steps generalizing s with
  | nil => exact ⟨hv, hva⟩
  | cons st steps ih => exact ih (valid_step hv hva st).1 (valid_step hv hva st).2

theorem valid_fresh_run (g : GeometryEngine) (steps : List Step) :
    ((fresh g).run steps).rules.table.Valid ∧ ((fresh g).run steps).adminRules.table.Valid :=
  valid_run valid_empty valid_empty steps

/-! ### The invariant of the cache -/

/-- What a cached answer `v` to `q` rests on: it was the engine's answer in
the state `s₀`, and since then the stores have kept the rules it names and the
geometry engine is the same. -/
structure Kept (q : AccessRequest) (v : AccessInfo) (s₀ s : Service) : Prop where
  computed : s₀.engine.accessInfo q = .ok v
  rules : s₀.rules.table.Keeps v.matchingRuleIds s.rules.table
  adminRules : s₀.adminRules.table.Keeps v.matchingAdminRuleId.toList s.adminRules.table
  geometry : s.geometry = s₀.geometry

variable {q : AccessRequest} {v : AccessInfo} {s₀ s' : Service}

theorem Kept.refl (h : s.engine.accessInfo q = .ok v) : Kept q v s s :=
  ⟨h, .refl _, .refl _, rfl⟩

theorem Kept.keeps (h : Kept q v s₀ s) (hr : s.rules.table.Keeps v.matchingRuleIds s'.rules.table)
    (ha : s.adminRules.table.Keeps v.matchingAdminRuleId.toList s'.adminRules.table)
    (hg : s'.geometry = s.geometry) : Kept q v s₀ s' :=
  ⟨h.computed, h.rules.trans hr, h.adminRules.trans ha, hg.trans h.geometry⟩

/-- Each answer the cache holds along a run of a fresh service was the
engine's answer in an earlier state of the run, and the stores have kept the
rules it names since. -/
theorem kept_run (g : GeometryEngine) (steps : List Step) {c : AnswerCache}
    (hc : ((fresh g).run steps).cache = some c) (h : (q, v) ∈ c.access) :
    ∃ k ≤ steps.length, Kept q v ((fresh g).run (steps.take k)) ((fresh g).run steps) := by
  induction steps using List.reverseRecOn generalizing c with
  | nil =>
    simp only [run, List.foldl_nil, fresh, Option.some.injEq] at hc
    subst hc
    cases h
  | append_singleton steps st ih =>
    rw [run_append_single] at hc ⊢
    have hd : ((fresh g).run steps).delivery = .immediate := delivery_run _ _
    obtain ⟨hv, hva⟩ := valid_fresh_run g steps
    rcases mem_cache_step hd hv hva st hc h with ⟨c₀, hc₀, hmem, hr, ha⟩ | ⟨hnow, hr, ha⟩
    · obtain ⟨k, hk, hkept⟩ := ih hc₀ hmem
      refine ⟨k, by simp only [List.length_append, List.length_singleton]; omega, ?_⟩
      rw [List.take_append_of_le_length hk]
      exact hkept.keeps hr ha (geometry_step _ st)
    · refine ⟨steps.length, by simp, ?_⟩
      rw [List.take_left]
      exact (Kept.refl hnow).keeps (hr ▸ Keeps.refl _) (ha ▸ Keeps.refl _) (geometry_step _ st)

/-! ### What a sound answer is -/

/-- What an access answer `v` to `q` owes the current state `s`, given the
state `s₀` it was computed in: it was the engine's answer then; every rule it
names is still stored, still matches `q` and is the rule it named then, its
priority aside; the decision on those rules as they now stand is `v`, its
admin part aside; and the admin rule it names is still stored, its priority
aside unchanged. -/
structure AnswerSound (q : AccessRequest) (v : AccessInfo) (s₀ s : Service) : Prop where
  computed : s₀.engine.accessInfo q = .ok v
  rules : ∀ id ∈ v.matchingRuleIds, ∃ r₀ r, s₀.rules.findById id = some r₀ ∧
    s.rules.findById id = some r ∧ r.matches q = true ∧ r = r₀.withPriority r.priority
  decision : coalesce s.geometry (v.matchingRuleIds.filterMap s.rules.findById) =
    .ok { v with adminRights := false, matchingAdminRuleId := none }
  adminRule : ∀ a ∈ v.matchingAdminRuleId, ∃ r₀ r, s₀.adminRules.findById a = some r₀ ∧
    s.adminRules.findById a = some r ∧ r = r₀.withPriority r.priority

/-- A kept answer is sound: the rules it names were matched, are found moved
in order, and the decision reads them only through that order. -/
theorem Kept.sound (h : Kept q v s₀ s) (hv₀ : s₀.rules.table.Valid) (hva₀ : s₀.adminRules.table.Valid)
    (hv : s.rules.table.Valid) (hva : s.adminRules.table.Valid) : AnswerSound q v s₀ s := by
  obtain ⟨g, hg⟩ := h.rules
  obtain ⟨ga, hga⟩ := h.adminRules
  have hnamed : ∀ id ∈ v.matchingRuleIds, ∃ r₀, s₀.rules.findById id = some r₀ ∧ r₀.matches q = true := by
    intro id hid
    obtain ⟨r₀, hr₀, hk⟩ := ((ids_coalesce (Engine.coalesce_of_accessInfo h.computed)).1 id).mp hid
    obtain ⟨hstored, hm⟩ := Engine.mem_matchingRules hr₀
    exact ⟨r₀, hv₀.get?_of_mem hstored hk, hm⟩
  have hentry : ∀ r₀ ∈ v.matchingRuleIds.filterMap s₀.rules.findById,
      ∃ id ∈ v.matchingRuleIds, (id, r₀) ∈ s₀.rules.table.entries := by
    intro r₀ hr₀
    obtain ⟨id, hid, hfound⟩ := List.mem_filterMap.mp hr₀
    exact ⟨id, hid, (get?_eq_some_iff hv₀.ascending).mp hfound⟩
  refine ⟨h.computed, fun id hid => ?_, ?_, fun a ha => ?_⟩
  · obtain ⟨r₀, hr₀, hm⟩ := hnamed id hid
    have hsame := hg.same (id, r₀) ((get?_eq_some_iff hv₀.ascending).mp hr₀) hid
    refine ⟨r₀, g r₀, hr₀, hg.get? hv₀.ascending hv.ascending hid hr₀, ?_, eq_setPriority_of_same hsame⟩
    have hident : (g r₀).ident = r₀.ident := by simpa using congrArg Rule.ident hsame
    simpa [Rule.matches, hident] using hm
  · have hL : v.matchingRuleIds.filterMap s.rules.findById =
        (v.matchingRuleIds.filterMap s₀.rules.findById).map g := by
      rw [List.map_filterMap]
      refine List.filterMap_congr fun id hid => ?_
      obtain ⟨r₀, hr₀, -⟩ := hnamed id hid
      rw [hr₀]
      exact hg.get? hv₀.ascending hv.ascending hid hr₀
    have happart : PrioritiesApart (v.matchingRuleIds.filterMap s₀.rules.findById) :=
      RuleStore.apart_of_sub hv₀ fun r₀ hr₀ => by
        obtain ⟨_, -, he⟩ := hentry r₀ hr₀
        exact List.mem_map_of_mem he
    rw [hL, h.geometry, coalesce_map _ happart (fun x hx y hy hxy => ?_) (fun x hx => ?_)]
    · exact Engine.coalesce_named hv₀ h.computed
    · obtain ⟨_, hidx, hex⟩ := hentry x hx
      obtain ⟨_, hidy, hey⟩ := hentry y hy
      exact hg.order _ hex hidx _ hey hidy hxy
    · obtain ⟨_, hidx, hex⟩ := hentry x hx
      exact hg.same _ hex hidx
  · obtain ⟨r₀, hr₀⟩ := Engine.adminRule_of_accessInfo hva₀ h.computed ha
    have hmem : a ∈ v.matchingAdminRuleId.toList := by simpa using ha
    refine ⟨r₀, ga r₀, hr₀, hga.get? hva₀.ascending hva.ascending hmem hr₀, ?_⟩
    exact eq_setPriority_of_same (hga.same (a, r₀) ((get?_eq_some_iff hva₀.ascending).mp hr₀) hmem)

end Service

/-- Every access answer along a run of a fresh service, from the cache or
not, is sound: there is a state earlier in the run in which it was the
engine's answer, the rules it names are all still stored, still match and are
unchanged but for their priorities, the decision on them as they now stand is
the answer, and the admin rule it names is still stored and unchanged but for
its priority. -/
theorem access_answers_sound (g : GeometryEngine) (steps : List Service.Step) (q : AccessRequest)
    {v : AccessInfo} (hv : (((Service.fresh g).run steps).access q).1.value = .ok v) :
    ∃ k ≤ steps.length,
      Service.AnswerSound q v ((Service.fresh g).run (steps.take k)) ((Service.fresh g).run steps) := by
  have hkept : ∃ k ≤ steps.length,
      Service.Kept q v ((Service.fresh g).run (steps.take k)) ((Service.fresh g).run steps) := by
    rcases Service.access_ok hv with hnow | ⟨c, hc, hmem⟩
    · exact ⟨steps.length, Nat.le_refl _, by rw [List.take_length]; exact .refl hnow⟩
    · exact Service.kept_run g steps hc hmem
  obtain ⟨k, hk, h⟩ := hkept
  obtain ⟨hv₀, hva₀⟩ := Service.valid_fresh_run g (steps.take k)
  obtain ⟨hv', hva'⟩ := Service.valid_fresh_run g steps
  exact ⟨k, hk, h.sound hv₀ hva₀ hv' hva'⟩

/-- A run in which a cached answer outlives an unannounced move: an ALLOW rule
for every request is created and the answer to an open request cached, then a
DENY rule created at the same priority moves the ALLOW rule up without a word
to the cache. -/
def Service.moveRun : List Service.Step :=
  [.rules (.create { priority := 1, access := .allow none } .fixed), .access {},
    .rules (.create { priority := 1, access := .deny } .fixed)]

/-- After `moveRun` the cache still answers ALLOW on the first rule alone, and
that answer is sound: the rule is still stored, only moved up. -/
theorem moveRun_answer_sound :
    (((Service.fresh .unsupported).run Service.moveRun).access {}).1.value =
        .ok { grant := .allow, matchingRuleIds := [1] } ∧
      ∃ k ≤ Service.moveRun.length, Service.AnswerSound {} { grant := .allow, matchingRuleIds := [1] }
        ((Service.fresh .unsupported).run (Service.moveRun.take k)) ((Service.fresh .unsupported).run Service.moveRun) :=
  ⟨by decide +kernel, access_answers_sound .unsupported Service.moveRun {} (by decide +kernel)⟩

end GeoAccess
