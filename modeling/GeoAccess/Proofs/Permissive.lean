import Mathlib
import GeoAccess.Proofs.Merge

/-!
# What an ALLOW merge keeps of each rule

In a rule's details and in a decision alike an empty style set allows every
style and an empty attribute map grants WRITE on every attribute
(`StylesAllow`, `grantedLevel`). An ALLOW merge joins the style sets of the
matched ALLOW rules and gives each listed attribute its most permissive level,
so an empty contributor adds nothing to either: it counts as the most
restrictive one rather than as the most permissive one.

* `stylesAllow_of_subset_iff`, `grantedLevel_le_iff`: a larger style set or
  attribute map permits what a smaller one permits, unless the smaller one is
  empty and the larger one is not.
* `allow_merge_keeps_iff`: behind a leading ALLOW rule, the decision permits
  every style and every attribute level a matched ALLOW rule's details permit
  on their own exactly when an ALLOW rule without details lifts every
  constraint, or those details restrict the styles (the attributes), or no
  matched ALLOW rule does.
* `unrestricted_allow_narrowed`: unrestricted details merged with details that
  restrict are held to the other rule's style and attribute.
-/

namespace GeoAccess

/-- Whether a set of allowed styles lets the style `s` through: the empty set
lets every style through. -/
def StylesAllow (styles : List String) (s : String) : Prop :=
  styles = [] ∨ s ∈ styles

instance (styles : List String) (s : String) : Decidable (StylesAllow styles s) :=
  inferInstanceAs (Decidable (_ ∨ _))

/-- The level an attribute map grants the name `n`: WRITE when the map is
empty, otherwise the level listed for `n`, and NONE when `n` is not listed. -/
def grantedLevel (m : List (String × AccessLevel)) (n : String) : AccessLevel :=
  if m = [] then .write else (m.lookup n).getD .none

@[simp] theorem grantedLevel_nil (n : String) : grantedLevel [] n = .write := rfl

/-! ## Finite sets permit less than everything -/

theorem AccessLevel.rank_le_write (l : AccessLevel) : l.rank ≤ AccessLevel.write.rank := by
  cases l <;> decide

theorem AccessLevel.eq_write_of_rank {l : AccessLevel} (h : AccessLevel.write.rank ≤ l.rank) :
    l = .write := by
  cases l <;> simp_all [AccessLevel.rank]

theorem exists_not_mem_text (l : List String) : ∃ s, s ∉ l := by
  obtain ⟨s, hs⟩ := Infinite.exists_notMem_finset l.toFinset
  exact ⟨s, by simpa using hs⟩

/-- Only the empty style set lets every style through. -/
theorem stylesAllow_all_iff {styles : List String} : (∀ s, StylesAllow styles s) ↔ styles = [] := by
  refine ⟨fun h => ?_, fun h s => .inl h⟩
  obtain ⟨s, hs⟩ := exists_not_mem_text styles
  exact (h s).resolve_right hs

/-- A style set that holds another permits what the other permits, unless the
other is empty and it is not. -/
theorem stylesAllow_of_subset_iff {a b : List String} (hab : ∀ s ∈ a, s ∈ b) :
    (∀ s, StylesAllow a s → StylesAllow b s) ↔ (a = [] → b = []) := by
  constructor
  · intro h ha
    exact stylesAllow_all_iff.mp fun s => h s (.inl ha)
  · rintro h s (ha | hs)
    · exact .inl (h ha)
    · exact .inr (hab s hs)

/-- In a map with names ascending, a name is looked up to its own entry: every
later name lies above it. -/
theorem lookup_of_mem_sorted {m : List (String × AccessLevel)} (hm : (m.map (·.1)).Pairwise (· < ·))
    {n : String} {l : AccessLevel} (h : (n, l) ∈ m) : m.lookup n = some l := by
  induction m with
  | nil => exact absurd h List.not_mem_nil
  | cons p m ih =>
    obtain ⟨k, l'⟩ := p
    rw [List.map_cons, List.pairwise_cons] at hm
    rcases List.mem_cons.mp h with h | h
    · obtain ⟨rfl, rfl⟩ := Prod.mk.inj h
      simp
    · have hne : (n == k) = false := beq_eq_false_iff_ne.mpr (hm.1 n (List.mem_map.mpr ⟨(n, l), h, rfl⟩)).ne'
      simp only [List.lookup_cons, hne]
      exact ih hm.2 h

theorem lookup_of_forall_not_mem {m : List (String × AccessLevel)} {n : String}
    (h : ∀ l, (n, l) ∉ m) : m.lookup n = none := by
  refine List.lookup_eq_none_iff.mpr fun p hp => ?_
  have hne : n ≠ p.1 := fun he => h p.2 (by rw [he]; exact hp)
  simpa using hne

/-- Only the empty attribute map grants WRITE on every name. -/
theorem grantedLevel_write_iff {m : List (String × AccessLevel)} :
    (∀ n, grantedLevel m n = .write) ↔ m = [] := by
  refine ⟨fun h => ?_, fun h n => by rw [h, grantedLevel_nil]⟩
  by_contra hne
  obtain ⟨n, hn⟩ := exists_not_mem_text (m.map (·.1))
  have hnone : m.lookup n = none :=
    lookup_of_forall_not_mem fun l hl => hn (List.mem_map.mpr ⟨(n, l), hl, rfl⟩)
  have := h n
  simp [grantedLevel, hne, hnone] at this

/-! ## Attribute maps of more attributes -/

section LevelMap

variable {as bs : List LayerAttribute} {m m' : List (String × AccessLevel)}

theorem LevelMap.eq_nil_iff (h : LevelMap as m) : m = [] ↔ as = [] := by
  constructor
  · intro hm
    refine List.eq_nil_iff_forall_not_mem.mpr fun a ha => ?_
    obtain ⟨l, hl⟩ := (h.named a.name).mpr ⟨a, ha, rfl⟩
    simp [hm] at hl
  · intro has
    refine List.eq_nil_iff_forall_not_mem.mpr fun p hp => ?_
    obtain ⟨a, ha, -⟩ := (h.named p.1).mp ⟨p.2, hp⟩
    simp [has] at ha

/-- A map grants a listed name the level it lists. -/
theorem LevelMap.grantedLevel_of_mem (h : LevelMap as m) {n : String} {l : AccessLevel} (hl : (n, l) ∈ m) :
    grantedLevel m n = l := by
  simp [grantedLevel, List.ne_nil_of_mem hl, lookup_of_mem_sorted h.sorted hl]

/-- The level a map grants a name: the one it lists, or NONE when the map is
not empty and lists none. -/
theorem LevelMap.grantedLevel_eq (h : LevelMap as m) (hm : m ≠ []) (n : String) :
    (∃ l, (n, l) ∈ m ∧ grantedLevel m n = l) ∨ ((∀ l, (n, l) ∉ m) ∧ grantedLevel m n = .none) := by
  by_cases hin : ∃ l, (n, l) ∈ m
  · obtain ⟨l, hl⟩ := hin
    exact .inl ⟨l, hl, h.grantedLevel_of_mem hl⟩
  · have hall : ∀ l, (n, l) ∉ m := fun l hl => hin ⟨l, hl⟩
    exact .inr ⟨hall, by simp [grantedLevel, hm, lookup_of_forall_not_mem hall]⟩

/-- The map of more attributes grants each name at least the level the map of
fewer grants it, unless the smaller map is empty and the larger is not. -/
theorem grantedLevel_le_iff (h : LevelMap as m) (h' : LevelMap bs m') (hsub : ∀ a ∈ as, a ∈ bs) :
    (∀ n, (grantedLevel m n).rank ≤ (grantedLevel m' n).rank) ↔ (m = [] → m' = []) := by
  constructor
  · intro hle hm
    refine grantedLevel_write_iff.mp fun n => AccessLevel.eq_write_of_rank ?_
    simpa only [hm, grantedLevel_nil] using hle n
  · intro hnil n
    by_cases hm' : m' = []
    · rw [hm', grantedLevel_nil]
      exact AccessLevel.rank_le_write _
    · have hm : m ≠ [] := fun hm => hm' (hnil hm)
      rcases h.grantedLevel_eq hm n with ⟨l, hl, hg⟩ | ⟨-, hg⟩
      · obtain ⟨⟨a, ha, han, hal⟩, -⟩ := (h.mem n l).mp hl
        obtain ⟨l', hl'⟩ := (h'.named n).mpr ⟨a, hsub a ha, han⟩
        rw [hg, h'.grantedLevel_of_mem hl', ← hal]
        exact ((h'.mem n l').mp hl').2 a (hsub a ha) han
      · rw [hg]
        exact Nat.zero_le _

end LevelMap

/-- The merged style set is empty exactly when every detail's is. -/
theorem AllowMerged.styles_eq_nil_iff {union : Geometry → Geometry → Except AuthzError Geometry}
    {D : List LayerDetails} {w : AccessInfo} (hw : AllowMerged union D w) :
    w.allowedStyles = [] ↔ ∀ d ∈ D, d.allowedStyles = [] := by
  simp only [List.eq_nil_iff_forall_not_mem, hw.styles, not_exists, not_and]
  exact ⟨fun h d hd s hs => h s d hd hs, fun h s d hd hs => h d hd s hs⟩

/-! ## Decisions behind a leading ALLOW rule -/

section Leading

variable (g : GeometryEngine) {rs : List Rule} {top : Rule}

/-- The details the ALLOW merge reads are those of the matched ALLOW rules. -/
theorem mem_allowDetails {d : LayerDetails} :
    d ∈ (byPriority rs).filterMap (·.access.layerDetails) ↔ ∃ r ∈ rs, r.access = .allow (some d) := by
  simp only [List.mem_filterMap, mem_byPriority]
  refine exists_congr fun r => and_congr_right fun _ => ?_
  cases r.access <;> simp [Access.layerDetails]

theorem forall_allowDetails (P : LayerDetails → Prop) :
    (∀ d ∈ (byPriority rs).filterMap (·.access.layerDetails), P d) ↔
      ∀ r ∈ rs, ∀ d, r.access = .allow (some d) → P d := by
  constructor
  · intro h r hr d hd
    exact h d (mem_allowDetails.mpr ⟨r, hr, hd⟩)
  · intro h d hd
    obtain ⟨r, hr, hrd⟩ := mem_allowDetails.mp hd
    exact h r hr d hrd

/-- With an ALLOW rule without details among them, a leading ALLOW rule makes
a decision that constrains neither styles nor attributes. -/
theorem coalesce_unconstrained (hlead : Leads rs top) (hallow : top.grant = .allow)
    (hbare : ∃ r ∈ rs, r.access = .allow none) {w : AccessInfo} (h : coalesce g rs = .ok w) :
    w.allowedStyles = [] ∧ w.attributes = [] := by
  obtain ⟨rest, hs⟩ := byPriority_of_leads hlead
  have hbare' : ∃ r ∈ top :: rest, r.access = .allow none := by
    simpa only [← hs, mem_byPriority] using hbare
  rw [coalesce_of_byPriority g hs, hallow, mergeAllows_of_bare g hbare'] at h
  obtain ⟨m, hm, rfl⟩ := map_eq_ok.mp h
  cases hm
  exact ⟨rfl, rfl⟩

/-- With every matched ALLOW rule carrying details, a leading ALLOW rule makes
a decision that merges the details. -/
theorem allowMerged_of_coalesce (hlead : Leads rs top) (hallow : top.grant = .allow)
    (hdetails : ∀ r ∈ rs, r.access ≠ .allow none) {w : AccessInfo} (h : coalesce g rs = .ok w) :
    AllowMerged g.union ((byPriority rs).filterMap (·.access.layerDetails)) w := by
  obtain ⟨rest, hs⟩ := byPriority_of_leads hlead
  have hdetails' : ∀ r ∈ top :: rest, r.access ≠ .allow none := by
    simpa only [← hs, mem_byPriority] using hdetails
  rw [coalesce_of_byPriority g hs, hallow, mergeAllows_eq g hdetails'] at h
  obtain ⟨m, hm, rfl⟩ := map_eq_ok.mp h
  obtain ⟨area, harea, rfl⟩ := map_eq_ok.mp hm
  rw [hs]
  exact allowMerged_allowFields harea _

/-- Behind a leading ALLOW rule, a decision permits every style and every
attribute level that a matched ALLOW rule's details `d` permit on their own
exactly when an ALLOW rule without details lifts every constraint, or when
`d` restricts the styles (the attributes), or no matched ALLOW rule does. An
empty style set or attribute map in `d` is unrestricted on its own, but the
merge reads it as contributing nothing. -/
theorem allow_merge_keeps_iff (hlead : Leads rs top) (hallow : top.grant = .allow) {w : AccessInfo}
    (h : coalesce g rs = .ok w) {r : Rule} (hr : r ∈ rs) {d : LayerDetails}
    (hd : r.access = .allow (some d)) :
    ((∀ s, StylesAllow d.allowedStyles s → StylesAllow w.allowedStyles s) ↔
      (∃ r' ∈ rs, r'.access = .allow none) ∨
        (d.allowedStyles = [] → ∀ r' ∈ rs, ∀ d', r'.access = .allow (some d') → d'.allowedStyles = [])) ∧
    ((∀ n, (grantedLevel (mergeAttributes [d]) n).rank ≤ (grantedLevel w.attributes n).rank) ↔
      (∃ r' ∈ rs, r'.access = .allow none) ∨
        (d.attributes = [] → ∀ r' ∈ rs, ∀ d', r'.access = .allow (some d') → d'.attributes = [])) := by
  by_cases hbare : ∃ r' ∈ rs, r'.access = .allow none
  · obtain ⟨hst, hat⟩ := coalesce_unconstrained g hlead hallow hbare h
    refine ⟨iff_of_true (fun s _ => .inl hst) (.inl hbare), iff_of_true (fun n => ?_) (.inl hbare)⟩
    rw [hat, grantedLevel_nil]
    exact AccessLevel.rank_le_write _
  · have hdetails : ∀ r' ∈ rs, r'.access ≠ .allow none := fun r' hr' he => hbare ⟨r', hr', he⟩
    have hw := allowMerged_of_coalesce g hlead hallow hdetails h
    have hdD : d ∈ (byPriority rs).filterMap (·.access.layerDetails) := mem_allowDetails.mpr ⟨r, hr, hd⟩
    simp only [hbare, false_or]
    constructor
    · have hsub : ∀ s ∈ d.allowedStyles, s ∈ w.allowedStyles := fun s hs => (hw.styles s).mpr ⟨d, hdD, hs⟩
      rw [stylesAllow_of_subset_iff hsub, hw.styles_eq_nil_iff, forall_allowDetails]
    · have hsub : ∀ a ∈ [d].flatMap (·.attributes),
          a ∈ ((byPriority rs).filterMap (·.access.layerDetails)).flatMap (·.attributes) :=
        fun a ha => List.mem_flatMap.mpr ⟨d, hdD, by simpa using ha⟩
      have hmd := levelMap_mergeAttributes [d]
      rw [grantedLevel_le_iff hmd hw.attributes hsub, hmd.eq_nil_iff, hw.attributes.eq_nil_iff]
      simp only [List.flatMap_eq_nil_iff, List.mem_singleton, forall_eq]
      rw [forall_allowDetails]

end Leading

/-- The details of an ALLOW rule that allow the style `plain` only and grant
READ on the attribute `name` only. -/
def plainDetails : LayerDetails :=
  { allowedStyles := ["plain"]
    attributes := [{ name := "name", access := .read }] }

/-- An ALLOW rule at 1 with `plainDetails`, then one at 2 that allows the style
`bold` only and grants WRITE on `name` and READ on `geom`. -/
def plainThenBold : List Rule :=
  [((Rule.ofAccess (.allow (some plainDetails))).withId 1).withPriority 1,
   ((Rule.ofAccess (.allow (some
      { allowedStyles := ["bold"]
        attributes := [{ name := "name", access := .write }, { name := "geom", access := .read }] }))).withId 2).withPriority 2]

/-- The decision on `plainThenBold`: the styles `bold` and `plain`, WRITE on
`name` and READ on `geom`. -/
def plainOrBold : AccessInfo :=
  { grant := .allow
    matchingRuleIds := [1, 2]
    attributes := [("geom", .read), ("name", .write)]
    allowedStyles := ["bold", "plain"] }

/-- Both rules restrict their styles and their attributes, so the decision
keeps every style and every level `plainDetails` permits. -/
theorem plain_kept_beside_bold :
    coalesce .unsupported plainThenBold = .ok plainOrBold ∧
      (∀ s, StylesAllow plainDetails.allowedStyles s → StylesAllow plainOrBold.allowedStyles s) ∧
      ∀ n, (grantedLevel (mergeAttributes [plainDetails]) n).rank ≤ (grantedLevel plainOrBold.attributes n).rank :=
  have hs : byPriority plainThenBold = plainThenBold :=
    byPriority_of_perm (by unfold PrioritiesApart; decide) (List.Perm.refl _) (by decide)
  have hc : coalesce .unsupported plainThenBold = .ok plainOrBold := by
    rw [coalesce_of_byPriority _ hs]
    decide +kernel
  have hkeep := allow_merge_keeps_iff .unsupported (leads_of_byPriority hs) rfl hc List.mem_cons_self rfl
  ⟨hc, hkeep.1.mpr (.inr fun h => absurd h (by decide)), hkeep.2.mpr (.inr fun h => absurd h (by decide))⟩

/-- An ALLOW rule at 1 whose details restrict nothing, then one at 2 with
`plainDetails`. -/
def openThenPlain : List Rule :=
  [((Rule.ofAccess (.allow (some {}))).withId 1).withPriority 1,
   ((Rule.ofAccess (.allow (some plainDetails))).withId 2).withPriority 2]

/-- The unrestricted rule of `openThenPlain` is held to the other rule's style
and attribute: its details alone allow the style `bold` and grant WRITE on
`geom`, the decision allows `plain` only and grants NONE on `geom`. -/
theorem unrestricted_allow_narrowed :
    coalesce .unsupported openThenPlain =
        .ok { grant := .allow
              matchingRuleIds := [1, 2]
              attributes := [("name", .read)]
              allowedStyles := ["plain"] } ∧
      StylesAllow [] "bold" ∧ ¬ StylesAllow ["plain"] "bold" ∧
      grantedLevel (mergeAttributes [({} : LayerDetails)]) "geom" = .write ∧
      grantedLevel [("name", .read)] "geom" = .none := by
  have hs : byPriority openThenPlain = openThenPlain :=
    byPriority_of_perm (by unfold PrioritiesApart; decide) (List.Perm.refl _) (by decide)
  refine ⟨?_, by decide, by decide, by decide, by decide⟩
  rw [coalesce_of_byPriority _ hs]
  decide +kernel

end GeoAccess
