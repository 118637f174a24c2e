import Mathlib
import GeoAccess.Proofs.Decision

/-!
# Which matched rule decides

A decision is taken by one rule: the first of the matched rules of least
priority, in the order the rules are given (`Leads`). Sorting by priority puts
it in front, because the sort is stable (`leads_of_byPriority`); a list has
one leading rule (`Leads.unique`); and rules added above every listed priority
leave it in front (`Leads.of_filter_le`).

On that rest:

* `coalesce_grant`: a decision has the grant of the leading rule;
* `coalesce_ids`: it lists the set of the identifiers of all matched rules,
  deciding or not;
* `coalesce_of_deny`: behind a leading DENY rule the decision carries nothing
  else, and the geometry engine is never asked;
* `coalesce_reads_relative_order`: rules whose priorities are apart give the
  same decision, or the same failure, in any order and with their priorities
  moved by any strictly increasing map;
* `top_rule_decides`: what a decision takes from the leading rule, and that
  rules added above the listed ones never change its grant.
-/

namespace GeoAccess

/-! ## The leading rule -/

/-- `top` leads `rs`: it is the first rule of least priority. Every rule
before it has a greater priority, every rule after it one at least as great. -/
def Leads (rs : List Rule) (top : Rule) : Prop :=
  ∃ pre post, rs = pre ++ top :: post ∧ (∀ x ∈ pre, top.priority < x.priority) ∧
    ∀ x ∈ post, top.priority ≤ x.priority

namespace Leads

variable {rs : List Rule} {top : Rule}

theorem mem (h : Leads rs top) : top ∈ rs := by
  obtain ⟨pre, post, rfl, -, -⟩ := h
  exact List.mem_append_right pre List.mem_cons_self

/-- The leading rule has the least priority. -/
theorem le (h : Leads rs top) {x : Rule} (hx : x ∈ rs) : top.priority ≤ x.priority := by
  obtain ⟨pre, post, rfl, hpre, hpost⟩ := h
  rcases List.mem_append.mp hx with hx | hx
  · exact Int.le_of_lt (hpre x hx)
  · rcases List.mem_cons.mp hx with rfl | hx
    · exact Int.le_refl _
    · exact hpost x hx

/-- The leading rule is the first rule at or below its own priority. -/
theorem find?_eq (h : Leads rs top) :
    rs.find? (fun x => decide (x.priority ≤ top.priority)) = some top := by
  obtain ⟨pre, post, rfl, hpre, -⟩ := h
  refine List.find?_eq_some_iff_append.mpr ⟨by simp, pre, post, rfl, fun x hx => ?_⟩
  have hlt := hpre x hx
  simp only [Bool.not_eq_eq_eq_not, Bool.not_true, decide_eq_false_iff_not]
  omega

/-- A list has one leading rule. -/
theorem unique {a b : Rule} (ha : Leads rs a) (hb : Leads rs b) : a = b := by
  have hp : a.priority = b.priority := Int.le_antisymm (ha.le hb.mem) (hb.le ha.mem)
  have hfind := ha.find?_eq
  rw [hp, hb.find?_eq] at hfind
  exact (Option.some.inj hfind).symm

/-- Leaving rules out keeps the leading rule in front, as long as it stays. -/
theorem filter (h : Leads rs top) {q : Rule → Bool} (hq : q top = true) :
    Leads (rs.filter q) top := by
  obtain ⟨pre, post, rfl, hpre, hpost⟩ := h
  refine ⟨pre.filter q, post.filter q, ?_, fun x hx => hpre x (List.mem_filter.mp hx).1,
    fun x hx => hpost x (List.mem_filter.mp hx).1⟩
  rw [List.filter_append, List.filter_cons_of_pos hq]

end Leads

/-- Sorting by priority puts the leading rule in front: the sort is stable. -/
theorem leads_of_byPriority {rs rest : List Rule} {top : Rule} (h : byPriority rs = top :: rest) :
    Leads rs top := by
  induction rs generalizing top rest with
  | nil => simp [byPriority] at h
  | cons a l ih =>
    obtain ⟨l₁, l₂, hsort, hrest, hbelow⟩ :=
      @List.mergeSort_cons Rule (fun x y => decide (x.priority ≤ y.priority))
        (fun x y z hxy hyz => by simp only [decide_eq_true_eq] at *; omega)
        (fun x y => by simp only [Bool.or_eq_true, decide_eq_true_eq]; omega) a l
    have hsorted := byPriority_pairwise (a :: l)
    rw [byPriority, hsort] at h hsorted
    cases l₁ with
    | nil =>
      obtain ⟨htop, -⟩ := List.cons.inj h
      subst htop
      refine ⟨[], l, rfl, by simp, fun x hx => ?_⟩
      have hx' : x ∈ l₂ := by
        rw [← List.nil_append l₂, ← hrest]
        exact List.mem_mergeSort.mpr hx
      exact List.rel_of_pairwise_cons hsorted hx'
    | cons b l₁ =>
      obtain ⟨hb, -⟩ := List.cons.inj h
      subst hb
      have hsl : byPriority l = b :: (l₁ ++ l₂) := by
        rw [byPriority, hrest]
        rfl
      obtain ⟨pre, post, hl, hpre, hpost⟩ := ih hsl
      refine ⟨a :: pre, post, by rw [hl]; rfl, fun x hx => ?_, hpost⟩
      rcases List.mem_cons.mp hx with rfl | hx
      · have hnot := hbelow _ List.mem_cons_self
        simp only [Bool.not_eq_eq_eq_not, Bool.not_true, decide_eq_false_iff_not] at hnot
        omega
      · exact hpre x hx

theorem byPriority_eq_nil {rs : List Rule} : byPriority rs = [] ↔ rs = [] := by
  rw [byPriority, ← List.length_eq_zero_iff, List.length_mergeSort, List.length_eq_zero_iff]

/-- Every nonempty list of rules has a leading rule. -/
theorem exists_leads {rs : List Rule} (h : rs ≠ []) : ∃ top, Leads rs top := by
  cases hs : byPriority rs with
  | nil => exact absurd (byPriority_eq_nil.mp hs) h
  | cons top rest => exact ⟨top, leads_of_byPriority hs⟩

/-- Rules added above a bound of every listed priority leave the leading rule
in front. -/
theorem Leads.of_filter_le {rs rs' : List Rule} {top : Rule} {p : Int} (h : Leads rs top)
    (hp : ∀ r ∈ rs, r.priority ≤ p) (hadd : rs'.filter (fun r => decide (r.priority ≤ p)) = rs) :
    Leads rs' top := by
  have hmem : top ∈ rs' := by
    have hkept : top ∈ rs'.filter (fun r => decide (r.priority ≤ p)) := by
      rw [hadd]
      exact h.mem
    exact (List.mem_filter.mp hkept).1
  obtain ⟨top', htop'⟩ := exists_leads (List.ne_nil_of_mem hmem)
  have hle : top'.priority ≤ p := Int.le_trans (htop'.le hmem) (hp top h.mem)
  have hkept : Leads rs top' := by
    rw [← hadd]
    exact htop'.filter (by simpa using hle)
  rwa [hkept.unique h] at htop'

/-! ## Sets of identifiers -/

namespace OrdSet

theorem pairwise_ofList (xs : List Nat) : (ofList xs).Pairwise (· < ·) := by
  induction xs with
  | nil => exact List.Pairwise.nil
  | cons x xs ih => exact pairwise_insert ih

/-- The set of a list depends only on the list's members. -/
theorem ofList_perm {xs ys : List Nat} (h : xs.Perm ys) : ofList xs = ofList ys := by
  have hmem : ∀ n, n ∈ ofList xs ↔ n ∈ ofList ys := fun n => by
    rw [mem_ofList, mem_ofList]
    exact h.mem_iff
  have hperm := (List.perm_ext_iff_of_nodup (nodup_ofList xs) (nodup_ofList ys)).mpr hmem
  exact hperm.eq_of_pairwise (fun a b _ _ hab hba => absurd (Nat.lt_trans hab hba) (Nat.lt_irrefl a))
    (pairwise_ofList xs) (pairwise_ofList ys)

end OrdSet

/-! ## Decisions -/

theorem coalesce_nil (e : GeometryEngine) : coalesce e [] = .ok AccessInfo.denyAll := by
  simp [coalesce, byPriority]

/-- A decision behind a leading rule: what the merge of that rule's grant
gives, with the identifiers of all the rules. -/
theorem coalesce_of_byPriority (e : GeometryEngine) {rs rest : List Rule} {top : Rule}
    (h : byPriority rs = top :: rest) :
    coalesce e rs = Except.map
      (fun m : AccessInfo => { m with matchingRuleIds := OrdSet.ofList ((top :: rest).filterMap (·.id)) })
      (match top.grant with
        | .deny => Except.ok AccessInfo.denyAll
        | .limit => mergeLimits e (top :: rest)
        | .allow => mergeAllows e (top :: rest)) := by
  cases hg : top.grant <;> simp only [coalesce, h, hg]

/-- The identifiers of the sorted rules form the set of the identifiers of the
rules. -/
theorem ofList_ids_byPriority (rs : List Rule) :
    OrdSet.ofList ((byPriority rs).filterMap (·.id)) = OrdSet.ofList (rs.filterMap (·.id)) :=
  OrdSet.ofList_perm ((List.mergeSort_perm rs _).filterMap _)

/-- The combined limits are a LIMIT decision. -/
theorem mergeLimits_grant {e : GeometryEngine} {rs : List Rule} {m : AccessInfo}
    (h : mergeLimits e rs = .ok m) : m.grant = .limit := by
  simp only [mergeLimits] at h
  obtain ⟨_, -, h⟩ := bind_eq_ok.mp h
  simp only [pure, Except.pure, Except.ok.injEq] at h
  subst h
  rfl

/-- The combined details are an ALLOW decision. -/
theorem mergeAllows_grant {e : GeometryEngine} {rs : List Rule} {m : AccessInfo}
    (h : mergeAllows e rs = .ok m) : m.grant = .allow := by
  simp only [mergeAllows] at h
  split at h
  · simp only [pure, Except.pure, Except.ok.injEq] at h
    subst h
    rfl
  · split at h
    · simp only [pure, Except.pure, bind, Except.bind, Except.ok.injEq] at h
      subst h
      rfl
    · obtain ⟨_, -, h⟩ := bind_eq_ok.mp h
      simp only [pure, Except.pure, bind, Except.bind, Except.ok.injEq] at h
      subst h
      rfl

/-- A decision has the grant of the rule in front of the sort. -/
theorem coalesce_grant {e : GeometryEngine} {rs rest : List Rule} {top : Rule} {w : AccessInfo}
    (hs : byPriority rs = top :: rest) (h : coalesce e rs = .ok w) : w.grant = top.grant := by
  rw [coalesce_of_byPriority e hs] at h
  obtain ⟨m, hm, rfl⟩ := map_eq_ok.mp h
  show m.grant = top.grant
  cases hg : top.grant with
  | allow =>
    rw [hg] at hm
    exact mergeAllows_grant hm
  | deny =>
    rw [hg] at hm
    rw [← Except.ok.inj hm]
    rfl
  | limit =>
    rw [hg] at hm
    exact mergeLimits_grant hm

/-- A decision lists the set of the identifiers of all the matched rules. -/
theorem coalesce_ids {e : GeometryEngine} {rs : List Rule} {w : AccessInfo}
    (h : coalesce e rs = .ok w) : w.matchingRuleIds = OrdSet.ofList (rs.filterMap (·.id)) := by
  cases hs : byPriority rs with
  | nil =>
    rw [byPriority_eq_nil.mp hs, coalesce_nil] at h
    rw [← Except.ok.inj h, byPriority_eq_nil.mp hs]
    rfl
  | cons top rest =>
    rw [coalesce_of_byPriority e hs] at h
    obtain ⟨m, -, rfl⟩ := map_eq_ok.mp h
    show OrdSet.ofList ((top :: rest).filterMap (·.id)) = _
    rw [← hs, ofList_ids_byPriority]

/-- Behind a leading DENY rule the decision denies with the identifiers of all
the rules and nothing else, whatever the geometry engine. -/
theorem coalesce_of_deny (e : GeometryEngine) {rs rest : List Rule} {top : Rule}
    (hs : byPriority rs = top :: rest) (hg : top.grant = .deny) :
    coalesce e rs = .ok { AccessInfo.denyAll with matchingRuleIds := OrdSet.ofList (rs.filterMap (·.id)) } := by
  rw [coalesce_of_byPriority e hs, hg, ← hs, ofList_ids_byPriority]
  rfl

/-! ## What a decision reads -/

/-- A decision reads the matched rules only through their contents and the
order of their priorities: rules whose priorities are apart give the same
decision, or the same failure, in any order and with their priorities moved by
any strictly increasing map. -/
theorem coalesce_reads_relative_order (e : GeometryEngine) {rs rs' : List Rule}
    (hd : PrioritiesApart rs) (hp : rs.Perm rs') {f : Int → Int} (hf : StrictMono f) :
    coalesce e (rs'.map fun r => r.withPriority (f r.priority)) = coalesce e rs := by
  have hd' : PrioritiesApart rs' := fun x hx y hy =>
    hd x (hp.mem_iff.mpr hx) y (hp.mem_iff.mpr hy)
  rw [coalesce_map e (h := fun r => r.withPriority (f r.priority)) hd' (fun x _ y _ hxy => hf hxy)
    (fun x _ => rfl), coalesce_perm e hd hp]

/-- An ALLOW rule at 10 above a DENY rule at 20 decides the same when the two
come the other way round and their priorities are moved to 21 and 41. -/
theorem allow_over_deny_relabelled :
    PrioritiesApart [(Rule.ofGrant .allow).withPriority 10, (Rule.ofGrant .deny).withPriority 20] ∧
    [(Rule.ofGrant .allow).withPriority 10, (Rule.ofGrant .deny).withPriority 20].Perm
      [(Rule.ofGrant .deny).withPriority 20, (Rule.ofGrant .allow).withPriority 10] ∧
    StrictMono (fun p : Int => 2 * p + 1) ∧
    coalesce .unsupported
        ([(Rule.ofGrant .deny).withPriority 20, (Rule.ofGrant .allow).withPriority 10].map
          fun r => r.withPriority (2 * r.priority + 1)) =
      coalesce .unsupported [(Rule.ofGrant .allow).withPriority 10, (Rule.ofGrant .deny).withPriority 20] :=
  have hd : PrioritiesApart [(Rule.ofGrant .allow).withPriority 10, (Rule.ofGrant .deny).withPriority 20] := by
    simp [PrioritiesApart, Rule.withPriority]
  have hp : [(Rule.ofGrant .allow).withPriority 10, (Rule.ofGrant .deny).withPriority 20].Perm
      [(Rule.ofGrant .deny).withPriority 20, (Rule.ofGrant .allow).withPriority 10] := List.Perm.swap _ _ []
  have hf : StrictMono (fun p : Int => 2 * p + 1) := fun a b hab => by
    show 2 * a + 1 < 2 * b + 1
    omega
  ⟨hd, hp, hf, coalesce_reads_relative_order .unsupported hd hp hf⟩

/-- The decision comes from the leading rule. No rule decides DENY with nothing
else. Otherwise a decision has the grant of the leading rule, lists the set of
the identifiers of all the rules, grants no admin rights, and, when it denies,
carries nothing else and is the same for every geometry engine. Rules added
above every listed priority keep its grant. -/
theorem top_rule_decides (e : GeometryEngine) (rs : List Rule) :
    coalesce e [] = .ok AccessInfo.denyAll ∧
    ∀ w, coalesce e rs = .ok w → rs ≠ [] →
      (∃ top, Leads rs top ∧ w.grant = top.grant) ∧
      w.matchingRuleIds = OrdSet.ofList (rs.filterMap (·.id)) ∧
      w.adminRights = false ∧
      (w.grant = .deny →
        w = { AccessInfo.denyAll with matchingRuleIds := w.matchingRuleIds } ∧
        ∀ e' : GeometryEngine, coalesce e' rs = .ok w) ∧
      ∀ (rs' : List Rule) (w' : AccessInfo) (p : Int), (∀ r ∈ rs, r.priority ≤ p) →
        rs'.filter (fun r => decide (r.priority ≤ p)) = rs → coalesce e rs' = .ok w' →
        w'.grant = w.grant := by
  refine ⟨coalesce_nil e, fun w h hne => ?_⟩
  obtain ⟨top, rest, hs⟩ : ∃ top rest, byPriority rs = top :: rest := by
    cases hs : byPriority rs with
    | nil => exact absurd (byPriority_eq_nil.mp hs) hne
    | cons top rest => exact ⟨top, rest, rfl⟩
  have hlead := leads_of_byPriority hs
  have hgrant := coalesce_grant hs h
  have hids := coalesce_ids h
  refine ⟨⟨top, hlead, hgrant⟩, hids, (coalesce_adminFree h).1, fun hdeny => ?_,
    fun rs' w' p hp hadd h' => ?_⟩
  · have hw := coalesce_of_deny e hs (hgrant ▸ hdeny)
    rw [h, ← hids] at hw
    refine ⟨Except.ok.inj hw, fun e' => ?_⟩
    rw [coalesce_of_deny e' hs (hgrant ▸ hdeny), ← hids, ← Except.ok.inj hw]
  · obtain ⟨top', rest', hs'⟩ : ∃ top rest, byPriority rs' = top :: rest := by
      cases hs' : byPriority rs' with
      | nil =>
        rw [byPriority_eq_nil.mp hs', List.filter_nil] at hadd
        exact absurd hadd.symm hne
      | cons top rest => exact ⟨top, rest, rfl⟩
    have htop : top' = top := (leads_of_byPriority hs').unique (hlead.of_filter_le hp hadd)
    rw [coalesce_grant hs' h', htop, hgrant]

/-- A DENY rule at priority 1 over an ALLOW rule with a style at 2. -/
def denyOverAllow : List Rule :=
  [((Rule.ofAccess (.allow (some { allowedStyles := ["s1"] }))).withId 6).withPriority 2,
   ((Rule.ofGrant .deny).withId 5).withPriority 1]

/-- The DENY rule decides, with both identifiers and no style. -/
theorem denyOverAllow_decides :
    coalesce .unsupported denyOverAllow = .ok { grant := .deny, matchingRuleIds := [5, 6] } ∧
    denyOverAllow ≠ [] ∧
    ((∃ top, Leads denyOverAllow top ∧ Grant.deny = top.grant) ∧
      [5, 6] = OrdSet.ofList (denyOverAllow.filterMap (·.id)) ∧
      false = false ∧
      (Grant.deny = .deny →
        ({ grant := .deny, matchingRuleIds := [5, 6] } : AccessInfo) =
          { AccessInfo.denyAll with matchingRuleIds := [5, 6] } ∧
        ∀ e' : GeometryEngine, coalesce e' denyOverAllow = .ok { grant := .deny, matchingRuleIds := [5, 6] }) ∧
      ∀ (rs' : List Rule) (w' : AccessInfo) (p : Int), (∀ r ∈ denyOverAllow, r.priority ≤ p) →
        rs'.filter (fun r => decide (r.priority ≤ p)) = denyOverAllow →
        coalesce .unsupported rs' = .ok w' → w'.grant = Grant.deny) :=
  have hd : PrioritiesApart denyOverAllow := by
    simp [PrioritiesApart, denyOverAllow, Rule.withPriority, Rule.withId]
  have hsort : byPriority denyOverAllow =
      [((Rule.ofGrant .deny).withId 5).withPriority 1,
       ((Rule.ofAccess (.allow (some { allowedStyles := ["s1"] }))).withId 6).withPriority 2] := by
    rw [byPriority_perm hd (List.Perm.swap _ _ [])]
    exact List.mergeSort_of_pairwise (by simp [Rule.withPriority])
  have hc : coalesce .unsupported denyOverAllow = .ok { grant := .deny, matchingRuleIds := [5, 6] } := by
    rw [coalesce_of_deny .unsupported hsort rfl]
    decide
  ⟨hc, by simp [denyOverAllow], (top_rule_decides .unsupported denyOverAllow).2 _ hc (by simp [denyOverAllow])⟩

end GeoAccess
