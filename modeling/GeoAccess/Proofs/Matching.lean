import GeoAccess.Proofs.Decision
import GeoAccess.Proofs.Listing

/-!
# The rules a request matches, and what its answer reads

In a valid store the engine's matched rules for a request are exactly the
stored rules that match it (`Engine.mem_matchingRules_iff`), each once and in
strictly rising priority (`Engine.matchingRules_rising`); a request whose
address is given but does not read matches nothing, whatever is stored
(`Engine.matchingRules_of_unreadable`). The store lists the same rules in the
same order: a page of its listing for a request is the front of the matched
rules from the cursor on (`Engine.findAll_page`). Both orders are strict, and
a strictly rising list is fixed by its members (`Table.Rising.eq_of_mem_iff`).

The answer to a request is the decision on its matched rules, an error of
which is an evaluation error, with the admin verdict filled in when the
request names a workspace (`Engine.accessInfo_eq`). The admin rules reach no
other part of it (`Engine.accessPart_accessInfo`).

* `matching_rules_agree`: in every store that runs build, the matched rules
  and the store's pages agree with the rules that match.
* `admin_rules_orthogonal`: the answer's shape, and two admin stores giving
  one answer apart from the admin verdict.
-/

namespace GeoAccess

open Prioritized LawfulPrioritized

/-! ## Pages of a table -/

namespace Table

variable {α : Type} [Prioritized α]

/-- A page with no size holds the stored values from the cursor on that pass
its filter. -/
theorem mem_page_iff {t : Table α} {keep : α → Bool} {cursor : Nat} {x : α} :
    x ∈ t.page keep cursor none ↔ (∃ e ∈ t.entries, cursor ≤ e.1 ∧ e.2 = x) ∧ keep x = true := by
  simp only [page, List.mem_mergeSort, List.mem_filter, List.mem_map]
  simp [and_assoc]

/-- A page with a size is the front of the page with none. -/
theorem page_some (t : Table α) (keep : α → Bool) (cursor n : Nat) :
    t.page keep cursor (some n) = (t.page keep cursor none).take n :=
  rfl

theorem page_pairwise_le (t : Table α) (keep : α → Bool) (cursor : Nat) :
    (t.page keep cursor none).Pairwise fun a b => priority a ≤ priority b :=
  pairwise_mergeSort_key priority _

variable [LawfulPrioritized α] {t : Table α}

/-- Stored values, each once and sorted by priority, strictly rise: a valid
table holds each priority once. -/
theorem Valid.rising_of_sorted (hv : t.Valid) {xs : List α} (hsub : ∀ x ∈ xs, x ∈ t.values)
    (hnd : xs.Nodup) (hle : xs.Pairwise fun a b => priority a ≤ priority b) : Rising xs :=
  (hle.and hnd).imp_of_mem fun ha hb hab =>
    Int.lt_iff_le_and_ne.mpr ⟨hab.1, fun hp => hab.2 (hv.eq_of_priority (hsub _ ha) (hsub _ hb) hp)⟩

/-- The stored values are those found under some identifier. -/
theorem Valid.mem_values_iff (hv : t.Valid) {x : α} : x ∈ t.values ↔ ∃ k, t.get? k = some x := by
  constructor
  · intro hx
    obtain ⟨e, he, rfl⟩ := List.mem_map.mp hx
    exact ⟨e.1, (get?_eq_some_iff hv.ascending).mpr he⟩
  · rintro ⟨k, hk⟩
    exact List.mem_map_of_mem ((get?_eq_some_iff hv.ascending).mp hk)

/-- The entries from a cursor on hold the stored values whose identifier is
at least the cursor: each entry is keyed by the identifier its value carries. -/
theorem Valid.from_cursor_iff (hv : t.Valid) {c : Nat} {x : α} :
    (∃ e ∈ t.entries, c ≤ e.1 ∧ e.2 = x) ↔ x ∈ t.values ∧ (idOf x).any (c ≤ ·) = true := by
  constructor
  · rintro ⟨e, he, hc, rfl⟩
    refine ⟨List.mem_map_of_mem he, ?_⟩
    rw [hv.keyed e he]
    simpa using hc
  · rintro ⟨hx, hc⟩
    obtain ⟨e, he, rfl⟩ := List.mem_map.mp hx
    rw [hv.keyed e he] at hc
    exact ⟨e, he, by simpa using hc, rfl⟩

end Table

/-! ## Matched rules -/

namespace Engine

variable {e : Engine} {q : AccessRequest}

/-- A request matches the stored rules that match it, and only those: a
request that fails closed matches no rule, so one that some rule matches is
looked up in the store. -/
theorem mem_matchingRules_iff {r : Rule} :
    r ∈ e.matchingRules q ↔ r ∈ e.rules.table.values ∧ r.matches q = true := by
  refine ⟨mem_matchingRules, ?_⟩
  rintro ⟨hr, hm⟩
  have hq : q.failsClosed = false := by
    cases hf : q.failsClosed
    · rfl
    · rw [Rule.matches_of_failsClosed hf r] at hm
      cases hm
  obtain ⟨x, hx, rfl⟩ := List.mem_map.mp hr
  simp only [matchingRules, hq, RuleStore.findAll, Bool.false_eq_true, if_false, Option.getD_none]
  rw [mem_byPriority, List.mem_filter, Table.mem_page_iff]
  exact ⟨⟨⟨x, hx, Nat.zero_le _, rfl⟩, hm⟩, hm⟩

theorem matchingRules_rising (hv : e.rules.table.Valid) : Table.Rising (e.matchingRules q) := by
  refine hv.rising_of_sorted (fun r hr => (mem_matchingRules hr).1) (nodup_matchingRules hv) ?_
  simp only [matchingRules]
  split
  · exact List.Pairwise.nil
  · exact byPriority_pairwise _

/-- A request whose address is given but does not read matches nothing,
whatever the stores hold. -/
theorem matchingRules_of_unreadable {raw : String} (hraw : q.sourceAddress = some raw)
    (hp : IpAddr.parse (Text.trimBlank raw) = none) (e : Engine) : e.matchingRules q = [] := by
  have hq : q.failsClosed = true := by
    simp [AccessRequest.failsClosed, AccessRequest.source, Source.read, hraw, hp, Source.failsClosed]
  simp [matchingRules, hq]

/-- A page of the store's listing for a request is the front of its matched
rules from the cursor on. -/
theorem findAll_page (hv : e.rules.table.Valid) (n c : Nat) :
    e.rules.findAll { filter := some q, pageSize := some n, cursor := some c } =
      ((e.matchingRules q).filter (·.id.any (c ≤ ·))).take n := by
  by_cases hq : q.failsClosed = true
  · simp [RuleStore.findAll, matchingRules, hq]
  have hpage : e.rules.table.page (·.matches q) c none =
      (e.matchingRules q).filter (·.id.any (c ≤ ·)) := by
    refine Table.Rising.eq_of_mem_iff ?_ ((matchingRules_rising hv).sublist List.filter_sublist)
      fun r => ?_
    · exact hv.rising_of_sorted (fun x hx => (Table.mem_page hx).1)
        (Table.nodup_page hv.values_nodup _ _ _) (Table.page_pairwise_le _ _ _)
    · rw [Table.mem_page_iff, hv.from_cursor_iff, List.mem_filter, mem_matchingRules_iff]
      exact and_right_comm
  simp only [RuleStore.findAll, hq, Bool.false_eq_true, ↓reduceIte, Option.getD_some]
  rw [Table.page_some, hpage]

end Engine

theorem matching_rules_agree (ws : List RuleWrite) (admin : AdminRuleStore) (g : GeometryEngine)
    (q : AccessRequest) :
    let e : Engine := ⟨RuleStore.run ws, admin, g⟩
    (∀ r, r ∈ e.matchingRules q ↔ (∃ k, e.rules.findById k = some r) ∧ r.matches q = true) ∧
      (e.matchingRules q).Nodup ∧ (e.matchingRules q).Pairwise (·.priority < ·.priority) ∧
      (∀ n c, e.rules.findAll { filter := some q, pageSize := some n, cursor := some c } =
        ((e.matchingRules q).filter (·.id.any (c ≤ ·))).take n) ∧
      ∀ raw, q.sourceAddress = some raw → IpAddr.parse (Text.trimBlank raw) = none →
        ∀ e' : Engine, e'.matchingRules q = [] := by
  intro e
  have hv : e.rules.table.Valid := RuleStore.valid_run ws
  refine ⟨fun r => ?_, Engine.nodup_matchingRules hv, Engine.matchingRules_rising hv,
    fun n c => Engine.findAll_page hv n c, fun raw hraw hp => Engine.matchingRules_of_unreadable hraw hp⟩
  rw [Engine.mem_matchingRules_iff, hv.mem_values_iff]
  rfl

/-! ## The answer and the admin verdict -/

/-- An answer with its admin verdict cleared: the part the rules decide. -/
def AccessInfo.accessPart (v : AccessInfo) : AccessInfo :=
  { v with adminRights := false, matchingAdminRuleId := none }

@[simp] theorem AccessInfo.accessPart_setAdmin (v : AccessInfo) (a : Bool) (m : Option Nat) :
    ({ v with adminRights := a, matchingAdminRuleId := m } : AccessInfo).accessPart = v.accessPart :=
  rfl

theorem AccessInfo.accessPart_of_adminFree {v : AccessInfo} (ha : v.adminRights = false)
    (hn : v.matchingAdminRuleId = none) : v.accessPart = v := by
  cases v
  simp only at ha hn
  rw [ha, hn]
  rfl

namespace Engine

/-- The answer to a request is the decision on its matched rules, an error of
which is an evaluation error; the admin verdict is filled in when the request
has an admin part, and is no right and no rule otherwise. -/
theorem accessInfo_eq (e : Engine) (q : AccessRequest) :
    e.accessInfo q = ((coalesce e.geometry (e.matchingRules q)).mapError .evaluation).map fun w =>
      match q.adminRequest with
      | some aq => { w with adminRights := (e.adminAuthorization aq).admin,
                            matchingAdminRuleId := (e.adminAuthorization aq).matchingAdminRuleId }
      | none => { w with adminRights := false, matchingAdminRuleId := none } := by
  simp only [accessInfo]
  cases hc : coalesce e.geometry (e.matchingRules q) with
  | error err => rfl
  | ok w =>
    cases q.adminRequest with
    | some aq => rfl
    | none =>
      obtain ⟨ha, hn⟩ := coalesce_adminFree hc
      exact congrArg Except.ok (AccessInfo.accessPart_of_adminFree ha hn).symm

/-- Apart from the admin verdict, the answer is the decision on the matched
rules. -/
theorem accessPart_accessInfo (e : Engine) (q : AccessRequest) :
    (e.accessInfo q).map AccessInfo.accessPart =
      ((coalesce e.geometry (e.matchingRules q)).mapError .evaluation).map AccessInfo.accessPart := by
  rw [accessInfo_eq]
  cases coalesce e.geometry (e.matchingRules q) with
  | error err => rfl
  | ok w =>
    cases q.adminRequest <;> rfl

end Engine

/-- The answer to a request is the decision on its matched data rules, with
the admin verdict filled in from the admin rules exactly when the request names
a workspace; the admin rules never change the access part of the answer. -/
theorem admin_rules_orthogonal (e : Engine) (q : AccessRequest) :
    e.accessInfo q = ((coalesce e.geometry (e.matchingRules q)).mapError .evaluation).map (fun w =>
        match q.adminRequest with
        | some aq => { w with adminRights := (e.adminAuthorization aq).admin,
                              matchingAdminRuleId := (e.adminAuthorization aq).matchingAdminRuleId }
        | none => { w with adminRights := false, matchingAdminRuleId := none }) ∧
      q.adminRequest.isSome = q.workspace.isSome ∧
      ∀ admin₁ admin₂ : AdminRuleStore,
        ((Engine.mk e.rules admin₁ e.geometry).accessInfo q).map AccessInfo.accessPart =
          ((Engine.mk e.rules admin₂ e.geometry).accessInfo q).map AccessInfo.accessPart := by
  refine ⟨Engine.accessInfo_eq e q, by simp [AccessRequest.adminRequest], fun admin₁ admin₂ => ?_⟩
  rw [Engine.accessPart_accessInfo, Engine.accessPart_accessInfo]
  rfl

end GeoAccess
