import Mathlib
import GeoAccess.Proofs.Merge

/-!
# The geometry engine only combines areas

A decision asks the geometry engine for one thing: to combine the areas of
the rules it merges. Under a leading LIMIT rule the areas of the LIMIT rules'
limits are intersected; under a leading ALLOW rule whose every ALLOW rule
carries details with an area, those areas are united; in every other case
nothing is combined (`areaMerge`).

* `coalesce_eq_combineLeft`: a decision is a record that is the same for
  every engine, with the combined areas filled in. The areas are combined
  left to right in ascending priority, one call for each area after the first,
  and the engine's first refusal is the decision's failure (`combineLeft`).
* `combineLeft_unsupported`: without an engine, combining fails exactly when
  there are two areas or more.
* `geometry_only_combines_areas`: both, so a host without a geometry engine
  sees a decision fail exactly when two or more areas are to be combined, with
  the refusal of the operation the decision needed.
-/

namespace GeoAccess

/-- How a decision combines areas: LIMIT rules narrow by intersection, ALLOW
rules widen by union. -/
inductive AreaOp where
  | intersection
  | union
  deriving DecidableEq, Repr

namespace AreaOp

/-- The engine's operation of this kind. -/
def apply (g : GeometryEngine) : AreaOp → Geometry → Geometry → Except AuthzError Geometry
  | .intersection => g.intersection
  | .union => g.union

/-- The name of the operation, as a refusal gives it. -/
def name : AreaOp → String
  | .intersection => "intersection"
  | .union => "union"

end AreaOp

/-- The areas a decision on `rs` combines, in ascending priority, and how:
under a leading LIMIT rule the areas of the LIMIT rules' limits, by
intersection; under a leading ALLOW rule, when every ALLOW rule has details
with an area, those areas, by union; nothing otherwise. -/
def areaMerge (rs : List Rule) : Option (AreaOp × List Geometry) :=
  match byPriority rs with
  | [] => none
  | top :: _ =>
    match top.grant with
    | .deny => none
    | .limit => some (.intersection, ((byPriority rs).filterMap (·.access.limits)).filterMap (·.allowedArea))
    | .allow =>
      if ∀ r ∈ rs, r.grant = .allow → (r.access.layerDetails.bind (·.allowedArea)).isSome then
        some (.union, ((byPriority rs).filterMap (·.access.layerDetails)).filterMap (·.allowedArea))
      else none

/-! ## Combining without an engine -/

/-- Without an engine no two areas combine: no area or one comes back as it
is, two or more fail with the refusal of the operation. -/
theorem combineLeft_unsupported (op : AreaOp) (areas : List Geometry) :
    combineLeft (op.apply .unsupported) areas =
      if 2 ≤ areas.length then .error (.geometry ("no geometry engine configured for " ++ op.name))
      else .ok areas.head? := by
  match areas with
  | [] => rfl
  | [a] => rfl
  | a :: b :: rest =>
    simp only [List.length_cons, combineLeft, List.foldlM_cons]
    cases op <;> rfl

/-! ## Where a decision asks the engine -/

/-- Every ALLOW rule has details with an area exactly when no ALLOW rule lacks
details and every detail has an area. -/
theorem allow_areas_iff {rs : List Rule} :
    (∀ r ∈ rs, r.grant = .allow → (r.access.layerDetails.bind (·.allowedArea)).isSome) ↔
      (∀ r ∈ rs, r.access ≠ .allow none) ∧
        ∀ d ∈ rs.filterMap (·.access.layerDetails), d.allowedArea.isSome := by
  constructor
  · intro h
    refine ⟨fun r hr hbare => ?_, fun d hd => ?_⟩
    · have := h r hr (by simp [Rule.grant, hbare, Access.grant])
      simp [hbare, Access.layerDetails] at this
    · obtain ⟨r, hr, hrd⟩ := List.mem_filterMap.mp hd
      have hallow : r.grant = .allow := ((r.access.layerDetails_isSome_iff).mp (by simp [hrd])).1
      simpa [hrd] using h r hr hallow
  · rintro ⟨hbare, hareas⟩ r hr hallow
    obtain ⟨d, hd⟩ := Option.isSome_iff_exists.mp ((r.access.layerDetails_isSome_iff).mpr ⟨hallow, hbare r hr⟩)
    simpa [hd] using hareas d (List.mem_filterMap.mpr ⟨r, hr, hd⟩)

theorem map_map_except {ε α β γ : Type} (f : β → γ) (g : α → β) (x : Except ε α) :
    (x.map g).map f = x.map (f ∘ g) := by
  cases x <;> rfl

/-- A decision is a record that is the same for every geometry engine, with
the areas `areaMerge` names combined left to right by the engine filled in;
a refusal of the engine is the decision's failure. -/
theorem coalesce_eq_combineLeft (rs : List Rule) :
    ∃ base : AccessInfo, ∀ g : GeometryEngine,
      coalesce g rs = match areaMerge rs with
        | none => .ok base
        | some (op, areas) => (combineLeft (op.apply g) areas).map fun area => { base with area } := by
  cases hs : byPriority rs with
  | nil =>
    refine ⟨AccessInfo.denyAll, fun g => ?_⟩
    simp only [areaMerge, hs]
    rw [byPriority_eq_nil.mp hs, coalesce_nil]
  | cons top rest =>
    have hsorted : ∀ r, r ∈ top :: rest ↔ r ∈ rs := fun r => by rw [← hs, mem_byPriority]
    cases hg : top.grant with
    | deny =>
      refine ⟨{ AccessInfo.denyAll with matchingRuleIds := OrdSet.ofList (rs.filterMap (·.id)) },
        fun g => ?_⟩
      simp only [areaMerge, hs, hg]
      exact coalesce_of_deny g hs hg
    | limit =>
      refine ⟨{ AccessInfo.unconstrained .limit with
          matchingRuleIds := OrdSet.ofList ((top :: rest).filterMap (·.id))
          spatialFilter := (((top :: rest).filterMap (·.access.limits)).filterMap (·.spatialFilter)).foldl
            narrowFilter none
          catalogMode := leastMode (((top :: rest).filterMap (·.access.limits)).filterMap (·.catalogMode)) },
        fun g => ?_⟩
      simp only [areaMerge, hs, hg]
      rw [coalesce_of_byPriority g hs, hg, mergeLimits_eq, map_map_except]
      rfl
    | allow =>
      by_cases hbare : ∃ r ∈ top :: rest, r.access = .allow none
      · refine ⟨{ AccessInfo.unconstrained .allow with
            matchingRuleIds := OrdSet.ofList ((top :: rest).filterMap (·.id)) }, fun g => ?_⟩
        have hnot : ¬ ∀ r ∈ rs, r.grant = .allow → (r.access.layerDetails.bind (·.allowedArea)).isSome :=
          fun h => by
            obtain ⟨r, hr, hra⟩ := hbare
            exact (allow_areas_iff.mp h).1 r ((hsorted r).mp hr) hra
        simp only [areaMerge, hs, hg]
        rw [if_neg hnot, coalesce_of_byPriority g hs, hg, mergeAllows_of_bare g hbare]
        rfl
      · have hdetails : ∀ r ∈ top :: rest, r.access ≠ .allow none := fun r hr hra => hbare ⟨r, hr, hra⟩
        refine ⟨{ allowFields ((top :: rest).filterMap (·.access.layerDetails)) none with
            matchingRuleIds := OrdSet.ofList ((top :: rest).filterMap (·.id)) }, fun g => ?_⟩
        rw [coalesce_of_byPriority g hs, hg, mergeAllows_eq g hdetails]
        have hcond : (∀ r ∈ rs, r.grant = .allow → (r.access.layerDetails.bind (·.allowedArea)).isSome) ↔
            ∀ d ∈ (top :: rest).filterMap (·.access.layerDetails), d.allowedArea.isSome := by
          have hmem : ∀ d, d ∈ rs.filterMap (·.access.layerDetails) ↔
              d ∈ (top :: rest).filterMap (·.access.layerDetails) := fun d => by
            simp only [List.mem_filterMap, hsorted]
          rw [allow_areas_iff, and_iff_right fun r hr => hdetails r ((hsorted r).mpr hr)]
          exact forall_congr' fun d => imp_congr (hmem d) Iff.rfl
        cases hm : ((top :: rest).filterMap fun r : Rule => r.access.layerDetails).mapM
            fun d : LayerDetails => d.allowedArea with
        | none =>
          obtain ⟨d, hd, hnone⟩ := mapM_option_eq_none.mp hm
          have hnot : ¬ ∀ r ∈ rs, r.grant = .allow → (r.access.layerDetails.bind (·.allowedArea)).isSome :=
            fun h => absurd (hcond.mp h d hd) (by simp [hnone])
          simp only [areaMerge, hs, hg]
          rw [if_neg hnot]
          rfl
        | some areas =>
          obtain ⟨hall, rfl⟩ := mapM_option_eq_some hm
          simp only [areaMerge, hs, hg]
          rw [if_pos (hcond.mpr hall), map_map_except]
          rfl

/-- A decision asks the geometry engine only to combine the areas `areaMerge`
names: left to right in ascending priority, once for each area after the
first, its first refusal being the decision's failure; all else of the
decision is the same for every engine. So without an engine a decision fails
exactly when two or more areas are to be combined, and the failure is the
refusal of the operation it needed: intersection behind a LIMIT rule, union
behind an ALLOW rule. -/
theorem geometry_only_combines_areas (rs : List Rule) :
    (∃ base : AccessInfo, ∀ g : GeometryEngine,
      coalesce g rs = match areaMerge rs with
        | none => .ok base
        | some (op, areas) => (combineLeft (op.apply g) areas).map fun area => { base with area }) ∧
    ∀ e, coalesce .unsupported rs = .error e ↔
      ∃ op areas, areaMerge rs = some (op, areas) ∧ 2 ≤ areas.length ∧
        e = .geometry ("no geometry engine configured for " ++ op.name) := by
  obtain ⟨base, hbase⟩ := coalesce_eq_combineLeft rs
  refine ⟨⟨base, hbase⟩, fun e => ?_⟩
  rw [hbase]
  cases hm : areaMerge rs with
  | none => simp
  | some m =>
    obtain ⟨op, areas⟩ := m
    simp only [combineLeft_unsupported]
    by_cases hlen : 2 ≤ areas.length
    · simp only [hlen, if_true, Option.some.injEq, Prod.mk.injEq]
      constructor
      · intro h
        exact ⟨op, areas, ⟨rfl, rfl⟩, hlen, (Except.error.inj h).symm⟩
      · rintro ⟨op', areas', ⟨rfl, rfl⟩, -, rfl⟩
        rfl
    · simp only [hlen, if_false]
      constructor
      · intro h
        cases h
      · rintro ⟨op', areas', ⟨rfl, rfl⟩, hlen', -⟩
        exact absurd hlen' hlen

end GeoAccess
