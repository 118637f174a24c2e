import GeoAccess.Proofs.Matching

/-!
# Which admin rule decides an admin request

The engine lists the stored admin rules that match an admin request, matches
them again, and takes the first of the lowest priority (`Engine.lowest_spec`).
In a valid store priorities are apart, so that rule is the one stored rule
that matches and whose priority is at most that of every other match
(`AdminRuleStore.Decides`, `Engine.topAdminRule_of_decides`). Its access
decides: ADMIN grants admin rights over its workspace, or over the request's
workspace when it names none; USER grants none. With no match the answer is
the default, no rights and no rule (`Engine.adminAuthorization_of_decides`,
`Engine.adminAuthorization_of_unmatched`).

Since the deciding rule matches, an ADMIN answer is scoped: its rule names no
workspace or the request's, up to ASCII case (`matchFolded_eq_true`). Since
only the lowest match counts, rules of lower precedence than the deciding one
can come and go without changing the answer
(`Engine.adminAuthorization_of_above`).

* `admin_decision_lowest_match`: all of it, for every valid admin store.
-/

namespace GeoAccess

open Prioritized LawfulPrioritized Table

/-- A fixed value matched up to ASCII case is the wildcard, or a value the
request names up to case. -/
theorem matchFolded_eq_true {v w : Option String} :
    matchFolded v w = true ↔ v = none ∨ ∃ a b, v = some a ∧ w = some b ∧ Text.eqFold a b = true := by
  cases v <;> cases w <;> simp [matchFolded]

namespace AdminRuleStore

/-- `r` decides `q` among the stored admin rules: it is stored, it matches, and
no stored rule that matches has a lower priority. -/
def Decides (s : AdminRuleStore) (q : AdminAccessRequest) (r : AdminRule) : Prop :=
  r ∈ s.table.values ∧ r.matches q = true ∧
    ∀ x ∈ s.table.values, x.matches q = true → r.priority ≤ x.priority

/-- In a valid store at most one admin rule decides a request: two that did
would hold one priority. -/
theorem Decides.unique {s : AdminRuleStore} (hv : s.table.Valid) {q : AdminAccessRequest}
    {r r' : AdminRule} (h : s.Decides q r) (h' : s.Decides q r') : r = r' :=
  hv.eq_of_priority h.1 h'.1 (Int.le_antisymm (h.2.2 r' h'.1 h'.2.1) (h'.2.2 r h.1 h.2.1))

/-- A rule that decides in one store decides in another that differs from it
only by rules of higher priority value. -/
theorem Decides.of_above {s s' : AdminRuleStore} {q : AdminAccessRequest} {r : AdminRule} (hd : s.Decides q r)
    (hnew : ∀ x ∈ s'.table.values, x ∉ s.table.values → r.priority < x.priority)
    (hgone : ∀ x ∈ s.table.values, x ∉ s'.table.values → r.priority < x.priority) : s'.Decides q r := by
  obtain ⟨hrs, hrq, hmin⟩ := hd
  refine ⟨?_, hrq, fun x hx hxq => ?_⟩
  · by_contra hr'
    exact Int.lt_irrefl _ (hgone r hrs hr')
  · by_cases hxs : x ∈ s.table.values
    · exact hmin x hxs hxq
    · exact Int.le_of_lt (hnew x hx hxs)

end AdminRuleStore

namespace Engine

/-- `lowest` picks a member of lowest priority, and picks one whenever there
is a member. -/
theorem lowest_spec {rs : List AdminRule} :
    (lowest rs = none ↔ rs = []) ∧
      ∀ r, lowest rs = some r → r ∈ rs ∧ ∀ x ∈ rs, r.priority ≤ x.priority := by
  induction rs with
  | nil => simp [lowest]
  | cons y ys ih =>
    refine ⟨⟨fun h => ?_, fun h => by cases h⟩, fun r hr => ?_⟩
    · simp only [lowest] at h
      split at h
      · split at h <;> cases h
      · cases h
    simp only [lowest] at hr
    cases hl : lowest ys with
    | none =>
      rw [hl] at hr
      cases hr
      simp [ih.1.mp hl]
    | some m =>
      obtain ⟨hm, hmin⟩ := ih.2 m hl
      rw [hl] at hr
      simp only at hr
      split at hr <;> cases hr
      · rename_i hlt
        refine ⟨List.mem_cons_of_mem _ hm, fun x hx => ?_⟩
        rcases List.mem_cons.mp hx with rfl | hx
        · exact Int.le_of_lt hlt
        · exact hmin x hx
      · rename_i hle
        refine ⟨List.mem_cons_self, fun x hx => ?_⟩
        rcases List.mem_cons.mp hx with rfl | hx
        · exact Int.le_refl _
        · have := hmin x hx
          omega

variable {e : Engine} {q : AdminAccessRequest}

/-- The candidates of an admin request are the stored rules that match it:
every stored rule carries an identifier, so the listing from the cursor 0
holds them all. -/
theorem mem_adminCandidates (hv : e.adminRules.table.Valid) {x : AdminRule} :
    x ∈ (e.adminRules.findAll { filter := some q }).filter (·.matches q) ↔
      x ∈ e.adminRules.table.values ∧ x.matches q = true := by
  simp only [AdminRuleStore.findAll, Option.getD_none, List.mem_filter, Table.mem_page_iff, hv.from_cursor_iff]
  constructor
  · rintro ⟨⟨⟨hx, -⟩, -⟩, hq⟩
    exact ⟨hx, hq⟩
  · rintro ⟨hx, hq⟩
    obtain ⟨k, hk⟩ := hv.keyed_of_mem hx
    exact ⟨⟨⟨hx, by simp [hk]⟩, hq⟩, hq⟩

/-- With no stored rule matching, no admin rule decides. -/
theorem topAdminRule_eq_none_iff (hv : e.adminRules.table.Valid) :
    e.topAdminRule q = none ↔ ∀ x ∈ e.adminRules.table.values, x.matches q = false := by
  rw [topAdminRule, lowest_spec.1, List.eq_nil_iff_forall_not_mem]
  simp only [mem_adminCandidates hv, not_and, Bool.not_eq_true]

/-- The admin rule the engine picks decides the request. -/
theorem decides_of_topAdminRule (hv : e.adminRules.table.Valid) {r : AdminRule}
    (h : e.topAdminRule q = some r) : e.adminRules.Decides q r := by
  obtain ⟨hr, hmin⟩ := lowest_spec.2 r h
  obtain ⟨hrs, hrq⟩ := (mem_adminCandidates hv).mp hr
  exact ⟨hrs, hrq, fun x hx hxq => hmin x ((mem_adminCandidates hv).mpr ⟨hx, hxq⟩)⟩

/-- The engine picks the admin rule that decides the request. -/
theorem topAdminRule_of_decides (hv : e.adminRules.table.Valid) {r : AdminRule}
    (hd : e.adminRules.Decides q r) : e.topAdminRule q = some r := by
  cases h : e.topAdminRule q with
  | none =>
    have hno := (topAdminRule_eq_none_iff hv).mp h r hd.1
    rw [hd.2.1] at hno
    cases hno
  | some r' => rw [(decides_of_topAdminRule hv h).unique hv hd]

/-- The answer of the deciding rule: admin rights exactly for ADMIN, over its
workspace or else the request's, and the rule named. -/
theorem adminAuthorization_of_decides (hv : e.adminRules.table.Valid) {r : AdminRule}
    (hd : e.adminRules.Decides q r) :
    e.adminAuthorization q =
      { admin := r.access = .admin
        workspace := if r.access = .admin then r.ident.workspace.or q.workspace else none
        matchingAdminRuleId := r.id } := by
  simp only [adminAuthorization, topAdminRule_of_decides hv hd]

/-- With no stored rule matching, the answer is the default: no rights, no
rule. -/
theorem adminAuthorization_of_unmatched (hv : e.adminRules.table.Valid)
    (h : ∀ x ∈ e.adminRules.table.values, x.matches q = false) : e.adminAuthorization q = {} := by
  simp only [adminAuthorization, (topAdminRule_eq_none_iff hv).mpr h]

/-- Admin rights come from a deciding ADMIN rule. -/
theorem decides_of_admin (hv : e.adminRules.table.Valid) (h : (e.adminAuthorization q).admin = true) :
    ∃ r, e.adminRules.Decides q r ∧ r.access = .admin := by
  simp only [adminAuthorization] at h
  split at h
  · cases h
  · rename_i r hr
    exact ⟨r, decides_of_topAdminRule hv hr, by simpa using h⟩

/-- Adding or removing admin rules of lower precedence than the deciding one
leaves the answer as it is. -/
theorem adminAuthorization_of_above {e' : Engine} (hv : e.adminRules.table.Valid)
    (hv' : e'.adminRules.table.Valid) {r : AdminRule} (hd : e.adminRules.Decides q r)
    (hnew : ∀ x ∈ e'.adminRules.table.values, x ∉ e.adminRules.table.values → r.priority < x.priority)
    (hgone : ∀ x ∈ e.adminRules.table.values, x ∉ e'.adminRules.table.values → r.priority < x.priority) :
    e'.adminAuthorization q = e.adminAuthorization q := by
  rw [adminAuthorization_of_decides hv hd, adminAuthorization_of_decides hv' (hd.of_above hnew hgone)]

end Engine

/-- The admin decision against its reference, in every valid admin store: the
default when no stored rule matches; otherwise the matching stored rule of
lowest priority decides, granting admin rights exactly when its access is
ADMIN, over its workspace or else the request's, and naming itself. So admin
rights come only from a rule scoped to the request's workspace, up to ASCII
case, or to every workspace; and rules of lower precedence than the deciding
one can be added or removed without changing the answer. -/
theorem admin_decision_lowest_match {e : Engine} (hv : e.adminRules.table.Valid) (q : AdminAccessRequest) :
    ((∀ x ∈ e.adminRules.table.values, x.matches q = false) → e.adminAuthorization q = {}) ∧
    (∀ r, e.adminRules.Decides q r →
      e.adminAuthorization q =
        { admin := r.access = .admin
          workspace := if r.access = .admin then r.ident.workspace.or q.workspace else none
          matchingAdminRuleId := r.id }) ∧
    ((e.adminAuthorization q).admin = true → ∃ r, e.adminRules.Decides q r ∧ r.access = .admin ∧
      (r.ident.workspace = none ∨
        ∃ w v, r.ident.workspace = some w ∧ q.workspace = some v ∧ Text.eqFold w v = true)) ∧
    (∀ (e' : Engine) (r : AdminRule), e'.adminRules.table.Valid → e.adminRules.Decides q r →
      (∀ x ∈ e'.adminRules.table.values, x ∉ e.adminRules.table.values → r.priority < x.priority) →
      (∀ x ∈ e.adminRules.table.values, x ∉ e'.adminRules.table.values → r.priority < x.priority) →
      e'.adminAuthorization q = e.adminAuthorization q) := by
  refine ⟨Engine.adminAuthorization_of_unmatched hv, fun r hd => Engine.adminAuthorization_of_decides hv hd,
    fun h => ?_, fun e' r hv' hd hnew hgone => Engine.adminAuthorization_of_above hv hv' hd hnew hgone⟩
  obtain ⟨r, hd, hadmin⟩ := Engine.decides_of_admin hv h
  have hws : matchFolded r.ident.workspace q.workspace = true := by
    have := hd.2.1
    simp only [AdminRule.matches, Bool.and_eq_true] at this
    exact this.2
  exact ⟨r, hd, hadmin, matchFolded_eq_true.mp hws⟩

/-- The stored ADMIN rule for the workspace `Roads`, at priority 1. -/
def roadsAdmin : AdminRule := (((AdminRule.ofGrant .admin).withWorkspace "Roads").withPriority 1).withId 1

/-- Creates an ADMIN rule for the workspace `Roads` at priority 1, then a USER
rule for everyone at priority 5. -/
def roadsAdminWrites : List AdminWrite :=
  [.create (((AdminRule.ofGrant .admin).withWorkspace "Roads").withPriority 1) .fixed,
   .create ((AdminRule.ofGrant .user).withPriority 5) .fixed]

/-- An engine over the admin rules `roadsAdminWrites` leaves. -/
def roadsEngine : Engine := { rules := {}, adminRules := AdminRuleStore.run roadsAdminWrites, geometry := .unsupported }

/-- `ann`, asking about the workspace `ROADS`. -/
def annOnRoads : AdminAccessRequest := { user := some "ann", workspace := some "ROADS" }

/-- Of the two rules, the ADMIN one at priority 1 decides `ann`'s request:
admin rights over `Roads`, named as the workspace it was written with. -/
theorem roadsAdmin_decides :
    roadsEngine.adminRules.table.Valid ∧ roadsEngine.adminRules.Decides annOnRoads roadsAdmin ∧
      roadsEngine.adminAuthorization annOnRoads =
        { admin := true, workspace := some "Roads", matchingAdminRuleId := some 1 } := by
  have hv : roadsEngine.adminRules.table.Valid := AdminRuleStore.valid_run _
  have hd : roadsEngine.adminRules.Decides annOnRoads roadsAdmin := by
    unfold AdminRuleStore.Decides
    decide
  refine ⟨hv, hd, ?_⟩
  rw [(admin_decision_lowest_match hv annOnRoads).2.1 _ hd]
  decide

end GeoAccess
