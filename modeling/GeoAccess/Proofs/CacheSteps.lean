import Mathlib
import GeoAccess.Proofs.Cache

/-!
# What each step does to the answer caches

A change handed to the caches forgets exactly the answers it may have made
wrong and keeps every other answer as it was. A query answers from the cache
when the cache holds an answer, without asking the engine; otherwise it asks
the engine once and caches the answer, unless the engine failed.

* `mem_handleEvent_access`, `mem_handleEvent_admin`: an update or a deletion
  of data rules forgets the access answers resting on one of them; one of
  admin rules forgets the admin answers and the access answers whose deciding
  admin rule is one of them; nothing else is forgotten or changed.
  Identifiers of one kind of rule never stand for the other kind
  (`AclEvent.Names`).
* `handleEvent_of_created`: a creation forgets nothing.
* `findAccess?_putAccess`, `findAdmin?_putAdmin`: caching an answer puts it
  under its request and keeps the answers to other requests.
* `Service.access_of_hit`, `Service.access_of_miss_ok`,
  `Service.access_of_miss_error` and their admin counterparts: the queries.
* `cache_steps_exact`: all of it, and matching rules never touch a cache.
-/

namespace GeoAccess

namespace AnswerCache

variable {c : AnswerCache} {e : AclEvent}

/-- A change keeps exactly the access answers resting on none of the data
rules it updates or deletes, whose deciding admin rule it does not update or
delete. -/
theorem mem_handleEvent_access {q : AccessRequest} {v : AccessInfo} :
    (q, v) ∈ (c.handleEvent e).access ↔
      (q, v) ∈ c.access ∧ (¬ ∃ id ∈ v.matchingRuleIds, e.Names .rule id) ∧
        ¬ ∃ a ∈ v.matchingAdminRuleId, e.Names .adminRule a := by
  constructor
  · intro h
    obtain ⟨hmem, hrule, hadmin⟩ := mem_handleEvent h
    exact ⟨hmem, fun ⟨id, hid, hn⟩ => hrule id hid hn, fun ⟨a, ha, hn⟩ => hadmin a ha hn⟩
  · rintro ⟨hmem, hrule, hadmin⟩
    unfold handleEvent
    split
    · exact hmem
    · rename_i hinv
      have hinv' : e.eventType.invalidates = true := by simpa using hinv
      split
      · rename_i hk
        refine List.mem_filter.mpr ⟨hmem, ?_⟩
        simp only [Bool.not_eq_eq_eq_not, Bool.not_true, List.any_eq_false, AccessInfo.dependsOnRule,
          List.contains_iff_mem]
        exact fun id hid hin => hrule ⟨id, hin, hinv', hk, hid⟩
      · rename_i hk
        refine List.mem_filter.mpr ⟨hmem, ?_⟩
        simp only [Bool.not_eq_eq_eq_not, Bool.not_true, List.any_eq_false, AccessInfo.dependsOnAdminRule,
          beq_iff_eq]
        exact fun a hid ha => hadmin ⟨a, ha, hinv', hk, hid⟩

/-- A change keeps exactly the admin answers whose deciding admin rule it does
not update or delete. -/
theorem mem_handleEvent_admin {q : AdminAccessRequest} {v : AdminAccessInfo} :
    (q, v) ∈ (c.handleEvent e).admin ↔
      (q, v) ∈ c.admin ∧ ¬ ∃ a ∈ v.matchingAdminRuleId, e.Names .adminRule a := by
  unfold handleEvent
  split
  · rename_i hinv
    have hno : ∀ a, ¬ e.Names .adminRule a := fun _ hn => by simp [hn.1] at hinv
    exact ⟨fun h => ⟨h, fun ⟨a, _, hn⟩ => hno a hn⟩, fun h => h.1⟩
  · rename_i hinv
    have hinv' : e.eventType.invalidates = true := by simpa using hinv
    split
    · rename_i hk
      refine ⟨fun h => ⟨h, fun ⟨a, _, hn⟩ => ?_⟩, fun h => h.1⟩
      exact absurd (hn.2.1.symm.trans hk) (by decide)
    · rename_i hk
      simp only [List.mem_filter, Bool.not_eq_eq_eq_not, Bool.not_true, List.any_eq_false,
        AdminAccessInfo.dependsOnAdminRule, beq_iff_eq]
      constructor
      · rintro ⟨hmem, hkeep⟩
        exact ⟨hmem, fun ⟨a, ha, hn⟩ => hkeep a hn.2.2 ha⟩
      · rintro ⟨hmem, hkeep⟩
        exact ⟨hmem, fun a hid ha => hkeep ⟨a, ha, hinv', hk, hid⟩⟩

/-- A creation forgets nothing. -/
theorem handleEvent_of_created (h : e.eventType = .created) : c.handleEvent e = c := by
  simp [handleEvent, h, EventType.invalidates]

theorem lookup_filter_ne {α β : Type} [DecidableEq α] {l : List (α × β)} {q q' : α} (h : q' ≠ q) :
    (l.filter (·.1 != q)).lookup q' = l.lookup q' := by
  induction l with
  | nil => rfl
  | cons p l ih =>
    obtain ⟨k, v⟩ := p
    by_cases hk : k = q
    · subst hk
      simp [List.lookup_cons, beq_false_of_ne h, ih]
    · simp [hk, List.lookup_cons, ih]

/-- An entry put in front of the others, with its key's old entries dropped,
answers for its key, and the others answer for every other key. -/
theorem lookup_put {α β : Type} [DecidableEq α] (l : List (α × β)) (q : α) (i : β) (q' : α) :
    ((q, i) :: l.filter (·.1 != q)).lookup q' = if q' = q then some i else l.lookup q' := by
  by_cases h : q' = q
  · simp [h]
  · simp [h, List.lookup_cons, beq_false_of_ne h, lookup_filter_ne h]

/-- Caching an access answer puts it under its request and keeps the answers
to every other request. -/
theorem findAccess?_putAccess (c : AnswerCache) (q : AccessRequest) (i : AccessInfo) (q' : AccessRequest) :
    (c.putAccess q i).findAccess? q' = if q' = q then some i else c.findAccess? q' :=
  lookup_put c.access q i q'

/-- Caching an admin answer puts it under its request and keeps the answers
to every other request. -/
theorem findAdmin?_putAdmin (c : AnswerCache) (q : AdminAccessRequest) (i : AdminAccessInfo)
    (q' : AdminAccessRequest) :
    (c.putAdmin q i).findAdmin? q' = if q' = q then some i else c.findAdmin? q' :=
  lookup_put c.admin q i q'

end AnswerCache

namespace Service

variable {s : Service} {c : AnswerCache}

/-! ## Queries through the cache -/

/-- A cached access answer is given as it is, and the engine is not asked. -/
theorem access_of_hit {q : AccessRequest} {v : AccessInfo} (hc : s.cache = some c)
    (hv : c.findAccess? q = some v) : s.access q = (⟨.ok v, false⟩, s) := by
  simp only [access, hc, hv]

/-- Without a cached access answer the engine is asked, and its answer is
given and cached. -/
theorem access_of_miss_ok {q : AccessRequest} {i : AccessInfo} (hc : s.cache = some c)
    (hv : c.findAccess? q = none) (hi : s.engine.accessInfo q = .ok i) :
    s.access q = (⟨.ok i, true⟩, { s with cache := some (c.putAccess q i) }) := by
  simp only [access, hc, hv, hi]

/-- A failure of the engine is given and not cached. -/
theorem access_of_miss_error {q : AccessRequest} {err : AuthorizationError} (hc : s.cache = some c)
    (hv : c.findAccess? q = none) (hi : s.engine.accessInfo q = .error err) :
    s.access q = (⟨.error err, true⟩, s) := by
  simp only [access, hc, hv, hi]

/-- A cached admin answer is given as it is, and the engine is not asked. -/
theorem adminAuthorization_of_hit {q : AdminAccessRequest} {v : AdminAccessInfo} (hc : s.cache = some c)
    (hv : c.findAdmin? q = some v) : s.adminAuthorization q = (⟨v, false⟩, s) := by
  simp only [adminAuthorization, hc, hv]

/-- Without a cached admin answer the engine is asked, and its answer, which
never fails, is given and cached. -/
theorem adminAuthorization_of_miss {q : AdminAccessRequest} (hc : s.cache = some c)
    (hv : c.findAdmin? q = none) :
    s.adminAuthorization q = (⟨s.engine.adminAuthorization q, true⟩,
      { s with cache := some (c.putAdmin q (s.engine.adminAuthorization q)) }) := by
  simp only [adminAuthorization, hc, hv]

/-- Matching rules reads the stores alone, never a cache. -/
theorem matchingRules_cache (s : Service) (c' : Option AnswerCache) (q : AccessRequest) :
    ({ s with cache := c' } : Service).matchingRules q = s.matchingRules q := rfl

end Service

/-- Each cache step has exactly its effect. A change forgets exactly the
access answers resting on a data rule it updates or deletes, or decided by an
admin rule it updates or deletes, and the admin answers decided by such an
admin rule; a creation forgets nothing; every other answer stays as it was.
A query answers from the cache without asking the engine when it can;
otherwise it asks the engine once, caches the answer under the request unless
the engine failed, and gives it. Caching an answer keeps the answers to the
other requests, and matching rules never reads a cache. -/
theorem cache_steps_exact :
    (∀ (c : AnswerCache) (e : AclEvent) q v, (q, v) ∈ (c.handleEvent e).access ↔
      (q, v) ∈ c.access ∧ (¬ ∃ id ∈ v.matchingRuleIds, e.Names .rule id) ∧
        ¬ ∃ a ∈ v.matchingAdminRuleId, e.Names .adminRule a) ∧
    (∀ (c : AnswerCache) (e : AclEvent) q v, (q, v) ∈ (c.handleEvent e).admin ↔
      (q, v) ∈ c.admin ∧ ¬ ∃ a ∈ v.matchingAdminRuleId, e.Names .adminRule a) ∧
    (∀ (c : AnswerCache) (e : AclEvent), e.eventType = .created → c.handleEvent e = c) ∧
    (∀ (s : Service) c q, s.cache = some c →
      (∀ v, c.findAccess? q = some v → s.access q = (⟨.ok v, false⟩, s)) ∧
      (c.findAccess? q = none →
        (∀ i, s.engine.accessInfo q = .ok i →
          s.access q = (⟨.ok i, true⟩, { s with cache := some (c.putAccess q i) })) ∧
        ∀ err, s.engine.accessInfo q = .error err → s.access q = (⟨.error err, true⟩, s))) ∧
    (∀ (s : Service) c q, s.cache = some c →
      (∀ v, c.findAdmin? q = some v → s.adminAuthorization q = (⟨v, false⟩, s)) ∧
      (c.findAdmin? q = none →
        s.adminAuthorization q = (⟨s.engine.adminAuthorization q, true⟩,
          { s with cache := some (c.putAdmin q (s.engine.adminAuthorization q)) }))) ∧
    (∀ (c : AnswerCache) q i q',
      (c.putAccess q i).findAccess? q' = (if q' = q then some i else c.findAccess? q') ∧
        (c.putAccess q i).admin = c.admin) ∧
    (∀ (c : AnswerCache) q i q',
      (c.putAdmin q i).findAdmin? q' = (if q' = q then some i else c.findAdmin? q') ∧
        (c.putAdmin q i).access = c.access) ∧
    ∀ (s : Service) c' q, ({ s with cache := c' } : Service).matchingRules q = s.matchingRules q :=
  ⟨fun _ _ _ _ => AnswerCache.mem_handleEvent_access,
    fun _ _ _ _ => AnswerCache.mem_handleEvent_admin,
    fun _ _ h => AnswerCache.handleEvent_of_created h,
    fun _ _ _ hc => ⟨fun _ hv => Service.access_of_hit hc hv,
      fun hv => ⟨fun _ hi => Service.access_of_miss_ok hc hv hi,
        fun _ hi => Service.access_of_miss_error hc hv hi⟩⟩,
    fun _ _ _ hc => ⟨fun _ hv => Service.adminAuthorization_of_hit hc hv,
      fun hv => Service.adminAuthorization_of_miss hc hv⟩,
    fun c q i q' => ⟨c.findAccess?_putAccess q i q', rfl⟩,
    fun c q i q' => ⟨c.findAdmin?_putAdmin q i q', rfl⟩,
    Service.matchingRules_cache⟩

end GeoAccess
