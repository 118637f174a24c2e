import GeoAccess.Proofs.Invariants

/-!
# Stored rules stay apart by identity

A store never holds two rules that are not LIMIT with one identifier and
grant, nor two admin rules with one admin identifier, and every rule with
layer details names a layer. These are facts of a table up to priority
(`Table.bare`), which every move leaves as it was; creations, saves and the
payload setters keep them by the checks they make (`RuleWrite.sound_step`,
`AdminWrite.sound_step`), and a creation or save that would break them fails
(`RuleStore.create_fails_of_clash`, `RuleStore.save_fails_of_clash`).
`run_identities_apart` gathers both stores.
-/

namespace GeoAccess

open Prioritized LawfulPrioritized Table

/-! ## Entries apart -/

namespace Table

variable {α : Type}

/-- Entries whose values clash are one entry. -/
def Apart (clash : α → α → Prop) (es : List (Nat × α)) : Prop :=
  ∀ e ∈ es, ∀ e' ∈ es, clash e.2 e'.2 → e.1 = e'.1

variable {clash : α → α → Prop} {es : List (Nat × α)}

theorem Apart.sublist (h : Apart clash es) {es' : List (Nat × α)} (hs : ∀ e ∈ es', e ∈ es) :
    Apart clash es' :=
  fun e he e' he' hc => h e (hs e he) e' (hs e' he') hc

/-- An entry added last keeps the entries apart when it clashes with none. -/
theorem Apart.append (h : Apart clash es) {n : Nat} {a : α}
    (ha : ∀ e ∈ es, ¬clash a e.2 ∧ ¬clash e.2 a) : Apart clash (es ++ [(n, a)]) := by
  simp only [Apart, List.mem_append, List.mem_singleton]
  rintro e (he | rfl) e' (he' | rfl) hc
  · exact h e he e' he' hc
  · exact absurd hc (ha e he).2
  · exact absurd hc (ha e' he').1
  · rfl

/-- The entry put under `k` keeps the entries apart when it clashes with none
under another identifier. -/
theorem Apart.replace (h : Apart clash es) {k : Nat} {a : α}
    (ha : ∀ e ∈ es, e.1 ≠ k → ¬clash a e.2 ∧ ¬clash e.2 a) :
    Apart clash (es.map fun e => if e.1 = k then (k, a) else e) := by
  simp only [Apart, List.mem_map]
  rintro _ ⟨e, he, rfl⟩ _ ⟨e', he', rfl⟩ hc
  by_cases hk : e.1 = k <;> by_cases hk' : e'.1 = k
  · simp [hk, hk']
  · simp only [hk, hk', ↓reduceIte] at hc
    exact absurd hc (ha e' he' hk').1
  · simp only [hk, hk', ↓reduceIte] at hc
    exact absurd hc (ha e he hk).2
  · simpa [hk, hk'] using h e he e' he' (by simpa [hk, hk'] using hc)

/-- An entry changed in place into one that clashes just as it did keeps the
entries apart. -/
theorem Apart.replace_same (h : Apart clash es) {k : Nat} {a b : α} (hb : (k, b) ∈ es)
    (hsame : ∀ x, (clash a x ↔ clash b x) ∧ (clash x a ↔ clash x b)) :
    Apart clash (es.map fun e => if e.1 = k then (k, a) else e) :=
  h.replace fun e he hk => ⟨fun hc => hk (h _ hb e he ((hsame _).1.mp hc)).symm,
    fun hc => hk (h e he _ hb ((hsame _).2.mp hc))⟩

theorem forall_replace {P : α → Prop} (h : ∀ e ∈ es, P e.2) {k : Nat} {a : α} (ha : P a) :
    ∀ e ∈ es.map (fun e => if e.1 = k then (k, a) else e), P e.2 := by
  simp only [List.mem_map]
  rintro _ ⟨e, he, rfl⟩
  by_cases hk : e.1 = k
  · simpa [hk] using ha
  · simpa [hk] using h e he

end Table

/-! ## Rules -/

/-- A rule clashes with another when it is not LIMIT and both have one
identifier and grant. -/
def Rule.Clash (r r' : Rule) : Prop := r.grant ≠ .limit ∧ r.identityKey = r'.identityKey

/-- Layer details come with a concrete layer. -/
def Rule.Layered (r : Rule) : Prop := r.access.layerDetails.isSome → r.ident.layer.isSome

/-- A rule that passed the duplicate check against `x` clashes with it
neither way. -/
theorem Rule.not_clash_of_check {r x : Rule} (h : r.grant = .limit ∨ x.identityKey ≠ r.identityKey) :
    ¬r.Clash x ∧ ¬x.Clash r := by
  constructor
  · rintro ⟨hl, hk⟩
    rcases h with h | h
    · exact hl h
    · exact h hk.symm
  · rintro ⟨hl, hk⟩
    rcases h with h | h
    · exact hl ((congrArg Prod.snd hk).trans h)
    · exact h hk

/-- Clashing depends on the identifier and the grant only. -/
theorem Rule.clash_congr {a b : Rule} (hi : a.ident = b.ident) (hg : a.grant = b.grant) (x : Rule) :
    (a.Clash x ↔ b.Clash x) ∧ (x.Clash a ↔ x.Clash b) := by
  simp [Rule.Clash, Rule.identityKey, hi, hg]

/-- What the stored rules keep, up to priority: those that are not LIMIT are
apart by identifier and grant, and layer details come with a layer. -/
structure RuleStore.Sound (es : List (Nat × Rule)) : Prop where
  apart : Apart Rule.Clash es
  layered : ∀ e ∈ es, e.2.Layered

theorem RuleStore.Sound.sublist {es es' : List (Nat × Rule)} (h : Sound es) (hs : ∀ e ∈ es', e ∈ es) :
    Sound es' :=
  ⟨h.apart.sublist hs, fun e he => h.layered e (hs e he)⟩

namespace RuleWrite

variable {s : RuleStore} {w : RuleWrite}

/-- A successful write keeps the stored rules sound: a new or changed rule
passed the duplicate check, and a LIMIT rule carries no layer details. -/
theorem sound_apply (hv : s.table.Valid) (hs : RuleStore.Sound s.table.bare) {c : Committed RuleStore Unit}
    (h : w.apply s = .ok c) : RuleStore.Sound c.store.table.bare := by
  cases w with
  | create r pos =>
    obtain ⟨c, hc, rfl⟩ := map_eq_ok.mp h
    obtain ⟨-, -, hpay, hdup, hans, -, g, hg, -, ht⟩ := RuleStore.create_ok hv hc
    simp only [Committed.drop, ht, bare_insert hg, hans]
    refine ⟨hs.apart.append fun e he => ?_, ?_⟩
    · obtain ⟨e₀, he₀, rfl⟩ := List.mem_map.mp he
      exact Rule.not_clash_of_check (hdup.imp_right fun hd => hd e₀ he₀)
    · simp only [List.mem_append, List.mem_singleton]
      rintro e (he | rfl)
      · exact hs.layered e he
      · exact hpay
  | save r =>
    obtain ⟨c, hc, rfl⟩ := map_eq_ok.mp h
    obtain ⟨id, old, -, -, hpay, -, hdup, -, -, g, hg, ht⟩ := RuleStore.save_ok hv hc
    simp only [Committed.drop, ht, bare_replace hg]
    refine ⟨hs.apart.replace fun e he hk => ?_, forall_replace hs.layered hpay⟩
    obtain ⟨e₀, he₀, rfl⟩ := List.mem_map.mp he
    exact Rule.not_clash_of_check (hdup.imp_right fun hd => hd e₀ he₀ hk)
  | delete id =>
    cases h
    simp only [Committed.drop, RuleStore.delete]
    split
    · rw [bare_erase]
      exact hs.sublist fun e he => (List.mem_filter.mp he).1
    · exact hs
  | shift start offset =>
    obtain ⟨c, hc, rfl⟩ := map_eq_ok.mp h
    obtain ⟨hoff, ht, -⟩ := RuleStore.shift_ok hv hc
    simp only [Committed.drop, ht]
    rw [bare_map_room (RoomAt.bump hoff s.table.values)]
    exact hs
  | swap id₁ id₂ =>
    obtain ⟨r₁, r₂, -, -, ht, -⟩ := RuleStore.swap_ok h
    rw [ht, bare_swap]
    exact hs
  | setAllowedStyles id styles =>
    obtain ⟨old, d, hold, hlay, hacc, ht, -⟩ := RuleStore.setAllowedStyles_ok h
    rw [ht, bare_put hv.ascending hold]
    have hg : Rule.grant { old with access := .allow (some { d with allowedStyles := TextSet.ofList styles }) } =
        old.grant := by simp [Rule.grant, Access.grant, hacc]
    exact ⟨hs.apart.replace_same (mem_bare_of_get? hv.ascending hold) (Rule.clash_congr rfl hg),
      forall_replace hs.layered fun _ => hlay⟩
  | setLimits id limits =>
    obtain ⟨old, new, hold, hnew, ht, -⟩ := RuleStore.setLimits_ok h
    rw [ht, bare_put hv.ascending hold]
    rcases hnew with ⟨hl, rfl⟩ | ⟨-, rfl⟩
    · have hg : Rule.grant { old with access := .limit limits } = old.grant := hl.symm
      refine ⟨hs.apart.replace_same (mem_bare_of_get? hv.ascending hold) (Rule.clash_congr rfl hg),
        forall_replace hs.layered ?_⟩
      simp [Rule.Layered, Access.layerDetails]
    · exact ⟨hs.apart.replace_same (mem_bare_of_get? hv.ascending hold) (Rule.clash_congr rfl rfl),
        forall_replace hs.layered (hs.layered _ (mem_bare_of_get? hv.ascending hold))⟩
  | setLayerDetails id details =>
    obtain ⟨old, new, hold, hdl, hnew, ht, -⟩ := RuleStore.setLayerDetails_ok h
    rw [ht, bare_put hv.ascending hold]
    rcases hnew with ⟨hl, rfl⟩ | ⟨-, rfl⟩
    · have hg : Rule.grant { old with access := .allow details } = old.grant := hl.symm
      exact ⟨hs.apart.replace_same (mem_bare_of_get? hv.ascending hold) (Rule.clash_congr rfl hg),
        forall_replace hs.layered hdl⟩
    · exact ⟨hs.apart.replace_same (mem_bare_of_get? hv.ascending hold) (Rule.clash_congr rfl rfl),
        forall_replace hs.layered (hs.layered _ (mem_bare_of_get? hv.ascending hold))⟩

/-- Any write, succeeding or failing, keeps the stored rules sound. -/
theorem sound_step (hv : s.table.Valid) (hs : RuleStore.Sound s.table.bare) (w : RuleWrite) :
    RuleStore.Sound (w.step s).table.bare := by
  cases h : w.apply s with
  | ok c =>
    rw [step_of_ok h]
    exact sound_apply hv hs h
  | error e =>
    rw [step_of_error h]
    exact hs

end RuleWrite

namespace RuleStore

variable {s : RuleStore}

theorem sound_foldl (hv : s.table.Valid) (hs : Sound s.table.bare) (ws : List RuleWrite) :
    Sound (ws.foldl (fun s w => w.step s) s).table.bare := by
  induction ws generalizing s with
  | nil => exact hs
  | cons w ws ih => exact ih (RuleWrite.valid_step hv w).1 (RuleWrite.sound_step hv hs w)

/-- Every store a run of writes reaches is sound. -/
theorem sound_run (ws : List RuleWrite) : Sound (run ws).table.bare :=
  sound_foldl valid_empty ⟨fun _ he => (nomatch he), fun _ he => (nomatch he)⟩ ws

/-- A creation that would store a second rule with the identifier and grant of
a stored one, neither being LIMIT, or layer details without a layer, fails. -/
theorem create_fails_of_clash (hv : s.table.Valid) {r : Rule} (pos : InsertPosition)
    (h : (r.grant ≠ .limit ∧ ∃ k r', s.findById k = some r' ∧ r'.identityKey = r.identityKey) ∨
      (r.access.layerDetails.isSome ∧ r.ident.layer = none)) :
    ∃ e, s.create r pos = .error e := by
  cases hc : s.create r pos with
  | error e => exact ⟨e, rfl⟩
  | ok c =>
    obtain ⟨-, -, hpay, hdup, -⟩ := create_ok hv hc
    rcases h with ⟨hl, k, r', hk, hkey⟩ | ⟨hd, hnone⟩
    · rcases hdup with hlim | hdup
      · exact absurd hlim hl
      · exact absurd hkey (hdup _ ((get?_eq_some_iff hv.ascending).mp hk))
    · exact absurd (hpay hd) (by simp [hnone])

/-- A save that would give the rule the identifier and grant of another stored
rule, neither being LIMIT, or layer details without a layer, fails. -/
theorem save_fails_of_clash (hv : s.table.Valid) {r : Rule}
    (h : (r.grant ≠ .limit ∧ ∃ k r', s.findById k = some r' ∧ r.id ≠ some k ∧
        r'.identityKey = r.identityKey) ∨
      (r.access.layerDetails.isSome ∧ r.ident.layer = none)) :
    ∃ e, s.save r = .error e := by
  cases hc : s.save r with
  | error e => exact ⟨e, rfl⟩
  | ok c =>
    obtain ⟨id, -, hid, -, hpay, -, hdup, -⟩ := save_ok hv hc
    rcases h with ⟨hl, k, r', hk, hne, hkey⟩ | ⟨hd, hnone⟩
    · rcases hdup with hlim | hdup
      · exact absurd hlim hl
      · exact absurd hkey (hdup _ ((get?_eq_some_iff hv.ascending).mp hk) fun he => hne (hid.trans
          (congrArg some he.symm)))
    · exact absurd (hpay hd) (by simp [hnone])

end RuleStore

/-! ## Admin rules -/

namespace AdminWrite

variable {s : AdminRuleStore} {w : AdminWrite}

/-- A successful write keeps the stored admin rules apart by identifier. -/
theorem sound_apply (hv : s.table.Valid) (hs : Apart (·.ident = ·.ident) s.table.bare)
    {c : Committed AdminRuleStore Unit} (h : w.apply s = .ok c) :
    Apart (·.ident = ·.ident) c.store.table.bare := by
  cases w with
  | create r pos =>
    obtain ⟨c, hc, rfl⟩ := map_eq_ok.mp h
    obtain ⟨-, -, hdup, hans, -, g, hg, -, ht⟩ := AdminRuleStore.create_ok hv hc
    simp only [Committed.drop, ht, bare_insert hg, hans]
    refine hs.append fun e he => ?_
    obtain ⟨e₀, he₀, rfl⟩ := List.mem_map.mp he
    exact ⟨fun hi => hdup e₀ he₀ hi.symm, hdup e₀ he₀⟩
  | save r =>
    obtain ⟨c, hc, rfl⟩ := map_eq_ok.mp h
    obtain ⟨id, old, -, -, -, hdup, -, -, g, hg, ht⟩ := AdminRuleStore.save_ok hv hc
    simp only [Committed.drop, ht, bare_replace hg]
    refine hs.replace fun e he hk => ?_
    obtain ⟨e₀, he₀, rfl⟩ := List.mem_map.mp he
    exact ⟨fun hi => hdup e₀ he₀ hk hi.symm, hdup e₀ he₀ hk⟩
  | delete id =>
    cases h
    simp only [Committed.drop, AdminRuleStore.delete]
    split
    · rw [bare_erase]
      exact hs.sublist fun e he => (List.mem_filter.mp he).1
    · exact hs
  | shift start offset =>
    obtain ⟨c, hc, rfl⟩ := map_eq_ok.mp h
    obtain ⟨hoff, ht, -⟩ := AdminRuleStore.shift_ok hv hc
    simp only [Committed.drop, ht]
    rw [bare_map_room (RoomAt.bump hoff s.table.values)]
    exact hs
  | swap id₁ id₂ =>
    obtain ⟨r₁, r₂, -, -, ht, -⟩ := AdminRuleStore.swap_ok h
    rw [ht, bare_swap]
    exact hs

/-- Any write, succeeding or failing, keeps the stored admin rules apart by
identifier. -/
theorem sound_step (hv : s.table.Valid) (hs : Apart (·.ident = ·.ident) s.table.bare) (w : AdminWrite) :
    Apart (·.ident = ·.ident) (w.step s).table.bare := by
  cases h : w.apply s with
  | ok c =>
    rw [step_of_ok h]
    exact sound_apply hv hs h
  | error e =>
    rw [step_of_error h]
    exact hs

end AdminWrite

namespace AdminRuleStore

variable {s : AdminRuleStore}

theorem sound_foldl (hv : s.table.Valid) (hs : Apart (·.ident = ·.ident) s.table.bare) (ws : List AdminWrite) :
    Apart (·.ident = ·.ident) (ws.foldl (fun s w => w.step s) s).table.bare := by
  induction ws generalizing s with
  | nil => exact hs
  | cons w ws ih => exact ih (AdminWrite.valid_step hv w).1 (AdminWrite.sound_step hv hs w)

/-- In every store a run of writes reaches, the admin rules are apart by
identifier. -/
theorem sound_run (ws : List AdminWrite) : Apart (·.ident = ·.ident) (run ws).table.bare :=
  sound_foldl valid_empty (fun _ he => nomatch he) ws

/-- A creation that would store a second admin rule with the identifier of a
stored one fails. -/
theorem create_fails_of_clash (hv : s.table.Valid) {r : AdminRule} (pos : InsertPosition)
    (h : ∃ k r', s.findById k = some r' ∧ r'.ident = r.ident) : ∃ e, s.create r pos = .error e := by
  cases hc : s.create r pos with
  | error e => exact ⟨e, rfl⟩
  | ok c =>
    obtain ⟨-, -, hdup, -⟩ := create_ok hv hc
    obtain ⟨k, r', hk, hi⟩ := h
    exact absurd hi (hdup _ ((get?_eq_some_iff hv.ascending).mp hk))

/-- A save that would give the admin rule the identifier of another stored one
fails. -/
theorem save_fails_of_clash (hv : s.table.Valid) {r : AdminRule}
    (h : ∃ k r', s.findById k = some r' ∧ r.id ≠ some k ∧ r'.ident = r.ident) :
    ∃ e, s.save r = .error e := by
  cases hc : s.save r with
  | error e => exact ⟨e, rfl⟩
  | ok c =>
    obtain ⟨id, -, hid, -, -, hdup, -⟩ := save_ok hv hc
    obtain ⟨k, r', hk, hne, hi⟩ := h
    exact absurd hi (hdup _ ((get?_eq_some_iff hv.ascending).mp hk) fun he => hne (hid.trans
      (congrArg some he.symm)))

end AdminRuleStore

/-! ## Both stores -/

/-- In every store a run of writes reaches, each write succeeding or failing:
two stored rules that are not LIMIT with one identifier and grant are one
rule, every rule with layer details names a layer, and a creation or save
that would break either fails; two stored admin rules with one admin
identifier are one, and a creation or save that would break that fails. -/
theorem run_identities_apart (ws : List RuleWrite) (vs : List AdminWrite) :
    (let s := RuleStore.run ws
     (∀ k₁ k₂ r₁ r₂, s.findById k₁ = some r₁ → s.findById k₂ = some r₂ → r₁.grant ≠ .limit →
        r₁.identityKey = r₂.identityKey → k₁ = k₂) ∧
      (∀ k r, s.findById k = some r → r.access.layerDetails.isSome → r.ident.layer.isSome) ∧
      (∀ r pos, (r.grant ≠ .limit ∧ ∃ k r', s.findById k = some r' ∧ r'.identityKey = r.identityKey) ∨
          (r.access.layerDetails.isSome ∧ r.ident.layer = none) → ∃ e, s.create r pos = .error e) ∧
      ∀ r, (r.grant ≠ .limit ∧ ∃ k r', s.findById k = some r' ∧ r.id ≠ some k ∧
            r'.identityKey = r.identityKey) ∨
          (r.access.layerDetails.isSome ∧ r.ident.layer = none) → ∃ e, s.save r = .error e) ∧
    (let s := AdminRuleStore.run vs
     (∀ k₁ k₂ a₁ a₂, s.findById k₁ = some a₁ → s.findById k₂ = some a₂ → a₁.ident = a₂.ident →
        k₁ = k₂) ∧
      (∀ a pos, (∃ k a', s.findById k = some a' ∧ a'.ident = a.ident) → ∃ e, s.create a pos = .error e) ∧
      ∀ a, (∃ k a', s.findById k = some a' ∧ a.id ≠ some k ∧ a'.ident = a.ident) →
        ∃ e, s.save a = .error e) := by
  have hv := RuleStore.valid_run ws
  have hs := RuleStore.sound_run ws
  have hw := AdminRuleStore.valid_run vs
  have ha := AdminRuleStore.sound_run vs
  refine ⟨⟨fun _ _ _ _ h₁ h₂ hl hkey =>
        hs.apart _ (mem_bare_of_get? hv.ascending h₁) _ (mem_bare_of_get? hv.ascending h₂) ⟨hl, hkey⟩,
      fun _ _ h => hs.layered _ (mem_bare_of_get? hv.ascending h),
      fun _ pos h => RuleStore.create_fails_of_clash hv pos h,
      fun _ h => RuleStore.save_fails_of_clash hv h⟩,
    ⟨fun _ _ _ _ h₁ h₂ hi => ha _ (mem_bare_of_get? hw.ascending h₁) _ (mem_bare_of_get? hw.ascending h₂) hi,
      fun _ pos h => AdminRuleStore.create_fails_of_clash hw pos h,
      fun _ h => AdminRuleStore.save_fails_of_clash hw h⟩⟩

end GeoAccess
