import GeoAccess.Authorization.Engine
import GeoAccess.Proofs.Invariants
import Mathlib.Data.List.Nodup

/-!
# What a decision reads of the rules it rests on

The decision on a request merges the matched rules in ascending priority
(`coalesce`). It reads their priorities only through that order
(`coalesce_eq_bare`): moving the priorities of rules whose priorities are
apart, in a way that keeps their order, gives the same decision
(`coalesce_map`), and so does taking such rules in any other order
(`coalesce_perm`). A decision lists the identifiers of exactly the rules it
rests on, each once (`ids_coalesce`).

The engine's answer is the decision on the matched rules with the admin
verdict filled in (`coalesce_of_accessInfo`); in a valid store the matched
rules are the stored rules the answer names (`coalesce_named`), and the admin
rule it names, if any, is stored (`adminRule_of_accessInfo`).
-/

namespace GeoAccess

open Prioritized LawfulPrioritized Table

theorem mapError_eq_ok {ε ε' α : Type} {f : ε → ε'} {x : Except ε α} {a : α} :
    x.mapError f = .ok a ↔ x = .ok a := by
  cases x <;> simp [Except.mapError]

/-! ## Sets of identifiers -/

namespace OrdSet

/-- Inserting into an ascending list keeps it ascending, for a transitive order
in which any two distinct elements compare. -/
theorem pairwise_insert_of {α : Type} [LT α] [DecidableRel (α := α) (· < ·)] [DecidableEq α]
    (htrans : ∀ {a b c : α}, a < b → b < c → a < c) (htotal : ∀ {a b : α}, ¬ a < b → a ≠ b → b < a)
    {a : α} {xs : List α} (h : xs.Pairwise (· < ·)) : (insert a xs).Pairwise (· < ·) := by
  induction xs with
  | nil => simp [insert]
  | cons x xs ih =>
    simp only [insert]
    split
    · rename_i hax
      refine List.pairwise_cons.mpr ⟨fun y hy => ?_, h⟩
      rcases List.mem_cons.mp hy with rfl | hy
      · exact hax
      · exact htrans hax (List.rel_of_pairwise_cons h hy)
    · split
      · exact h
      · rename_i hax hne
        refine List.pairwise_cons.mpr ⟨fun y hy => ?_, ih h.of_cons⟩
        rcases mem_insert.mp hy with rfl | hy
        · exact htotal hax hne
        · exact List.rel_of_pairwise_cons h hy

theorem pairwise_insert {a : Nat} {xs : List Nat} (h : xs.Pairwise (· < ·)) :
    (insert a xs).Pairwise (· < ·) :=
  pairwise_insert_of Nat.lt_trans (fun hab hne => by omega) h

/-- A set built from a list holds each member once. -/
theorem nodup_ofList (xs : List Nat) : (ofList xs).Nodup := by
  have h : (ofList xs).Pairwise (· < ·) := by
    induction xs with
    | nil => exact List.Pairwise.nil
    | cons x xs ih => exact pairwise_insert ih
  exact h.imp Nat.ne_of_lt

end OrdSet

/-! ## Sorting by priority -/

/-- Rules whose priorities are apart: two rules of one priority are one rule. -/
def PrioritiesApart (rs : List Rule) : Prop :=
  ∀ x ∈ rs, ∀ y ∈ rs, x.priority = y.priority → x = y

theorem mem_byPriority {rs : List Rule} {r : Rule} : r ∈ byPriority rs ↔ r ∈ rs :=
  List.mem_mergeSort

theorem byPriority_pairwise (rs : List Rule) : (byPriority rs).Pairwise (·.priority ≤ ·.priority) :=
  pairwise_mergeSort_key Rule.priority rs

/-- Rules whose priorities are apart sort the same, whatever order they come
in. -/
theorem byPriority_perm {rs rs' : List Rule} (hd : PrioritiesApart rs) (hp : rs.Perm rs') :
    byPriority rs = byPriority rs' := by
  refine List.Perm.eq_of_pairwise (fun a b ha hb hab hba => ?_) (byPriority_pairwise rs)
    (byPriority_pairwise rs') ((List.mergeSort_perm _ _).trans (hp.trans (List.mergeSort_perm _ _).symm))
  exact hd a (mem_byPriority.mp ha) b (hp.mem_iff.mpr (mem_byPriority.mp hb)) (Int.le_antisymm hab hba)

/-- Sorting commutes with a move of priorities that keeps their order. -/
theorem byPriority_map {rs : List Rule} {h : Rule → Rule} (hd : PrioritiesApart rs)
    (hmono : ∀ x ∈ rs, ∀ y ∈ rs, x.priority < y.priority → (h x).priority < (h y).priority) :
    byPriority (rs.map h) = (byPriority rs).map h := by
  refine (List.map_mergeSort fun a ha b hb => ?_).symm
  rcases Int.lt_trichotomy a.priority b.priority with hab | hab | hab
  · have := hmono a ha b hb hab
    simp only [decide_eq_decide]
    constructor <;> intro <;> omega
  · rw [hd a ha b hb hab]
    simp
  · have := hmono b hb a ha hab
    simp only [decide_eq_decide]
    constructor <;> intro <;> omega

/-! ## Decisions up to priority -/

theorem mergeLimits_withPriority (e : GeometryEngine) (rs : List Rule) (p : Int) :
    mergeLimits e (rs.map (·.withPriority p)) = mergeLimits e rs := by
  simp only [mergeLimits, List.filterMap_map]
  rfl

theorem mergeAllows_withPriority (e : GeometryEngine) (rs : List Rule) (p : Int) :
    mergeAllows e (rs.map (·.withPriority p)) = mergeAllows e rs := by
  simp only [mergeAllows, List.filter_map, List.mapM_map]
  rfl

/-- A decision reads the rules in priority order and never their priorities. -/
theorem coalesce_eq_bare (e : GeometryEngine) (rs : List Rule) :
    coalesce e rs = coalesce e ((byPriority rs).map (·.withPriority 0)) := by
  have hsorted : byPriority ((byPriority rs).map (·.withPriority 0)) = (byPriority rs).map (·.withPriority 0) :=
    List.mergeSort_of_pairwise (List.pairwise_map.mpr (List.pairwise_of_forall fun _ _ => by
      simp [Rule.withPriority]))
  simp only [coalesce, hsorted]
  generalize byPriority rs = sorted
  cases sorted with
  | nil => rfl
  | cons top rest =>
    rw [mergeLimits_withPriority, mergeAllows_withPriority, List.filterMap_map]
    rfl

/-- Rules moved in their priorities only, in an order-keeping way, give the
same decision. -/
theorem coalesce_map (e : GeometryEngine) {rs : List Rule} {h : Rule → Rule} (hd : PrioritiesApart rs)
    (hmono : ∀ x ∈ rs, ∀ y ∈ rs, x.priority < y.priority → (h x).priority < (h y).priority)
    (hsame : ∀ x ∈ rs, (h x).withPriority 0 = x.withPriority 0) :
    coalesce e (rs.map h) = coalesce e rs := by
  rw [coalesce_eq_bare e (rs.map h), coalesce_eq_bare e rs, byPriority_map hd hmono, List.map_map]
  congr 1
  exact List.map_congr_left fun x hx => hsame x (mem_byPriority.mp hx)

/-- Rules whose priorities are apart give the same decision in any order. -/
theorem coalesce_perm (e : GeometryEngine) {rs rs' : List Rule} (hd : PrioritiesApart rs)
    (hp : rs.Perm rs') : coalesce e rs = coalesce e rs' := by
  simp only [coalesce, byPriority_perm hd hp]

/-- A decision lists the identifiers of exactly the rules it rests on, each
once. -/
theorem ids_coalesce {e : GeometryEngine} {rs : List Rule} {w : AccessInfo} (h : coalesce e rs = .ok w) :
    (∀ k, k ∈ w.matchingRuleIds ↔ ∃ r ∈ rs, r.id = some k) ∧ w.matchingRuleIds.Nodup := by
  simp only [coalesce] at h
  split at h
  · rename_i hnil
    simp only [Except.ok.injEq] at h
    subst h
    have hrs : rs = [] := ((List.mergeSort_perm rs _).symm.trans (List.Perm.of_eq hnil)).eq_nil
    simp [hrs, AccessInfo.denyAll, AccessInfo.unconstrained]
  · rename_i top tail hcons
    obtain ⟨m, -, rfl⟩ := map_eq_ok.mp h
    refine ⟨fun k => ?_, OrdSet.nodup_ofList _⟩
    simp only [OrdSet.mem_ofList, List.mem_filterMap, mem_byPriority]

/-- The combined limits grant no admin rights. -/
theorem mergeLimits_adminFree {e : GeometryEngine} {rs : List Rule} {m : AccessInfo}
    (h : mergeLimits e rs = .ok m) : m.adminRights = false ∧ m.matchingAdminRuleId = none := by
  simp only [mergeLimits] at h
  obtain ⟨_, -, h⟩ := bind_eq_ok.mp h
  simp only [pure, Except.pure, Except.ok.injEq] at h
  subst h
  exact ⟨rfl, rfl⟩

/-- The combined details grant no admin rights. -/
theorem mergeAllows_adminFree {e : GeometryEngine} {rs : List Rule} {m : AccessInfo}
    (h : mergeAllows e rs = .ok m) : m.adminRights = false ∧ m.matchingAdminRuleId = none := by
  simp only [mergeAllows] at h
  split at h
  · simp only [pure, Except.pure, Except.ok.injEq] at h
    subst h
    exact ⟨rfl, rfl⟩
  · split at h
    · simp only [pure, Except.pure, bind, Except.bind, Except.ok.injEq] at h
      subst h
      exact ⟨rfl, rfl⟩
    · obtain ⟨_, -, h⟩ := bind_eq_ok.mp h
      simp only [pure, Except.pure, bind, Except.bind, Except.ok.injEq] at h
      subst h
      exact ⟨rfl, rfl⟩

/-- A decision on rules grants no admin rights: those come from the admin
rules alone. -/
theorem coalesce_adminFree {e : GeometryEngine} {rs : List Rule} {w : AccessInfo} (h : coalesce e rs = .ok w) :
    w.adminRights = false ∧ w.matchingAdminRuleId = none := by
  simp only [coalesce] at h
  split at h
  · simp only [Except.ok.injEq] at h
    subst h
    exact ⟨rfl, rfl⟩
  · obtain ⟨m, hm, rfl⟩ := map_eq_ok.mp h
    split at hm
    · simp only [Except.ok.injEq] at hm
      subst hm
      exact ⟨rfl, rfl⟩
    · obtain ⟨ha, hn⟩ := mergeLimits_adminFree hm
      exact ⟨ha, hn⟩
    · obtain ⟨ha, hn⟩ := mergeAllows_adminFree hm
      exact ⟨ha, hn⟩

/-! ## Stored rules -/

namespace Table

variable {α : Type} [Prioritized α]

/-- A page holds stored entries that pass its filter. -/
theorem mem_page {t : Table α} {keep : α → Bool} {cursor : Nat} {size : Option Nat} {x : α}
    (h : x ∈ t.page keep cursor size) : x ∈ t.values ∧ keep x = true := by
  have hs : x ∈ ((t.entries.filter (·.1 ≥ cursor)).map (·.2)).filter keep := by
    simp only [page] at h
    split at h
    · exact List.mem_mergeSort.mp (List.mem_of_mem_take h)
    · exact List.mem_mergeSort.mp h
  obtain ⟨hx, hk⟩ := List.mem_filter.mp hs
  obtain ⟨e, he, rfl⟩ := List.mem_map.mp hx
  exact ⟨List.mem_map_of_mem (List.mem_filter.mp he).1, hk⟩

theorem nodup_page {t : Table α} (hnd : t.values.Nodup) (keep : α → Bool) (cursor : Nat)
    (size : Option Nat) : (t.page keep cursor size).Nodup := by
  have hsub : (((t.entries.filter (·.1 ≥ cursor)).map (·.2)).filter keep).Sublist t.values :=
    List.filter_sublist.trans (List.filter_sublist.map _)
  have hs := hnd.sublist hsub
  simp only [page]
  split
  · exact ((List.mergeSort_perm _ _).nodup_iff.mpr hs).sublist (List.take_sublist _ _)
  · exact (List.mergeSort_perm _ _).nodup_iff.mpr hs

variable [LawfulPrioritized α] {t : Table α}

theorem Valid.values_nodup (hv : t.Valid) : t.values.Nodup :=
  hv.values_pairwise.imp fun h he => h (congrArg priority he)

/-- A stored value is found under the identifier it carries. -/
theorem Valid.get?_of_mem (hv : t.Valid) {x : α} (hx : x ∈ t.values) {k : Nat} (hk : idOf x = some k) :
    t.get? k = some x := by
  obtain ⟨⟨k', a⟩, he, rfl⟩ := List.mem_map.mp hx
  have hkk : k' = k := Option.some.inj ((hv.keyed _ he).symm.trans hk)
  subst hkk
  exact (get?_eq_some_iff hv.ascending).mpr he

/-- A stored value carries an identifier. -/
theorem Valid.keyed_of_mem (hv : t.Valid) {x : α} (hx : x ∈ t.values) : ∃ k, idOf x = some k := by
  obtain ⟨e, he, rfl⟩ := List.mem_map.mp hx
  exact ⟨e.1, hv.keyed e he⟩

/-- Stored values of one priority are one value. -/
theorem Valid.eq_of_priority (hv : t.Valid) {x y : α} (hx : x ∈ t.values) (hy : y ∈ t.values)
    (hp : priority x = priority y) : x = y := by
  obtain ⟨e, he, rfl⟩ := List.mem_map.mp hx
  obtain ⟨e', he', rfl⟩ := List.mem_map.mp hy
  rw [hv.distinct e he e' he' hp]

end Table

/-- Stored rules are apart in priority. -/
theorem RuleStore.apart_of_sub {s : RuleStore} (hv : s.table.Valid) {rs : List Rule}
    (hs : ∀ r ∈ rs, r ∈ s.table.values) : PrioritiesApart rs :=
  fun x hx y hy hp => hv.eq_of_priority (hs x hx) (hs y hy) hp

/-! ## The engine's answers -/

namespace Engine

variable {e : Engine} {q : AccessRequest} {v : AccessInfo}

/-- The engine's answer is the decision on the matched rules with the admin
verdict filled in. -/
theorem coalesce_of_accessInfo (h : e.accessInfo q = .ok v) :
    coalesce e.geometry (e.matchingRules q) = .ok { v with adminRights := false, matchingAdminRuleId := none } := by
  simp only [accessInfo] at h
  obtain ⟨w, hw, h⟩ := bind_eq_ok.mp h
  have hc := mapError_eq_ok.mp hw
  have hclear : { w with adminRights := false, matchingAdminRuleId := none } = w := by
    obtain ⟨ha, hn⟩ := coalesce_adminFree hc
    cases w
    simp only at ha hn
    rw [ha, hn]
  rw [hc, ← hclear]
  split at h <;> simp only [pure, Except.pure, Except.ok.injEq] at h <;> subst h <;> rfl

/-- The admin rule an answer names decided the request's admin part. -/
theorem topAdminRule_of_accessInfo (h : e.accessInfo q = .ok v) {a : Nat}
    (ha : v.matchingAdminRuleId = some a) : ∃ aq r, e.topAdminRule aq = some r ∧ r.id = some a := by
  simp only [accessInfo] at h
  obtain ⟨w, hw, h⟩ := bind_eq_ok.mp h
  split at h
  · rename_i aq _
    simp only [pure, Except.pure, Except.ok.injEq] at h
    subst h
    simp only [adminAuthorization] at ha
    split at ha
    · cases ha
    · exact ⟨aq, _, ‹_›, ha⟩
  · simp only [pure, Except.pure, Except.ok.injEq] at h
    subst h
    rw [(coalesce_adminFree (mapError_eq_ok.mp hw)).2] at ha
    cases ha

theorem mem_matchingRules {r : Rule} (h : r ∈ e.matchingRules q) :
    r ∈ e.rules.table.values ∧ r.matches q = true := by
  simp only [matchingRules] at h
  split at h
  · cases h
  · obtain ⟨hr, hm⟩ := List.mem_filter.mp (mem_byPriority.mp h)
    simp only [RuleStore.findAll] at hr
    split at hr
    · cases hr
    · exact ⟨(mem_page hr).1, hm⟩

theorem nodup_matchingRules (hv : e.rules.table.Valid) : (e.matchingRules q).Nodup := by
  simp only [matchingRules]
  split
  · exact List.nodup_nil
  · refine (List.mergeSort_perm _ _).nodup_iff.mpr (List.Nodup.filter _ ?_)
    simp only [RuleStore.findAll]
    split
    · exact List.nodup_nil
    · exact nodup_page hv.values_nodup _ _ _

/-- At the state an answer was computed in, the decision on the stored rules
it names is the answer, its admin part aside: the rules it names are the
matched rules. -/
theorem coalesce_named (hv : e.rules.table.Valid) (h : e.accessInfo q = .ok v) :
    coalesce e.geometry (v.matchingRuleIds.filterMap e.rules.findById) =
      .ok { v with adminRights := false, matchingAdminRuleId := none } := by
  have hc := coalesce_of_accessInfo h
  obtain ⟨hids, hnd⟩ := ids_coalesce hc
  have hstored : ∀ r ∈ e.matchingRules q, r ∈ e.rules.table.values := fun r hr => (mem_matchingRules hr).1
  have hmem : ∀ r, r ∈ e.matchingRules q ↔ r ∈ v.matchingRuleIds.filterMap e.rules.findById := by
    intro r
    rw [List.mem_filterMap]
    constructor
    · intro hr
      obtain ⟨k, hk⟩ := hv.keyed_of_mem (hstored r hr)
      exact ⟨k, (hids k).mpr ⟨r, hr, hk⟩, hv.get?_of_mem (hstored r hr) hk⟩
    · rintro ⟨k, hk, hr⟩
      obtain ⟨r', hr', hk'⟩ := (hids k).mp hk
      have hfound : e.rules.findById k = some r' := hv.get?_of_mem (hstored r' hr') hk'
      rw [hfound, Option.some.injEq] at hr
      exact hr ▸ hr'
  have hnd' : (v.matchingRuleIds.filterMap e.rules.findById).Nodup :=
    hnd.filterMap fun k k' r hk hk' =>
      Option.some.inj (((hv.get?_keyed hk).1).symm.trans (hv.get?_keyed hk').1)
  have hperm := (List.perm_ext_iff_of_nodup (nodup_matchingRules hv) hnd').mpr hmem
  rw [← coalesce_perm _ (RuleStore.apart_of_sub hv hstored) hperm, hc]

theorem mem_of_lowest {rs : List AdminRule} {r : AdminRule} (h : lowest rs = some r) : r ∈ rs := by
  induction rs with
  | nil => cases h
  | cons x xs ih =>
    simp only [lowest] at h
    split at h
    · rename_i m hm
      split at h <;> simp only [Option.some.injEq] at h <;> subst h
      · exact List.mem_cons_of_mem _ (ih hm)
      · exact List.mem_cons_self
    · simp only [Option.some.injEq] at h
      subst h
      exact List.mem_cons_self

theorem mem_topAdminRule {aq : AdminAccessRequest} {r : AdminRule} (h : e.topAdminRule aq = some r) :
    r ∈ e.adminRules.table.values := by
  have hr := (List.mem_filter.mp (mem_of_lowest h)).1
  simp only [AdminRuleStore.findAll] at hr
  exact (mem_page hr).1

/-- The admin rule an answer names is stored. -/
theorem adminRule_of_accessInfo (hva : e.adminRules.table.Valid) (h : e.accessInfo q = .ok v) {a : Nat}
    (ha : v.matchingAdminRuleId = some a) : ∃ r, e.adminRules.findById a = some r := by
  obtain ⟨aq, r, hr, hid⟩ := topAdminRule_of_accessInfo h ha
  exact ⟨r, hva.get?_of_mem (mem_topAdminRule hr) hid⟩

end Engine

end GeoAccess
