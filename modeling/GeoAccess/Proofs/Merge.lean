import Mathlib
import GeoAccess.Proofs.Combine

/-!
# What a merge of matched rules decides

Behind a leading LIMIT rule a decision narrows, behind a leading ALLOW rule it
widens. Each merge reads the rules of its own grant only, in ascending
priority, and the decision lists the identifiers of all matched rules.

* `mergeLimits_eq`, `mergeAllows_eq`, `mergeAllows_of_bare`: the merges in the
  form the proofs use, areas combined by `combineLeft`.
* `LimitMerged`: what the limits of the LIMIT rules make of a decision: their
  areas intersected left to right, CLIP over INTERSECT over nothing, and the
  least permissive catalog mode.
* `AllowMerged`: what the details of the ALLOW rules make of a decision: each
  attribute at the most permissive level it is given, the union of the style
  sets, the areas united when every detail has one, a read or write filter
  kept only when every detail has one, the most permissive catalog mode and
  the first default style.
* `limit_merge_narrows`, `allow_merge_widens`: a decision behind a leading
  LIMIT or ALLOW rule is such a merge; an ALLOW rule without details lifts
  every constraint.
-/

namespace GeoAccess

/-- A leading rule is the first of the rules sorted by priority. -/
theorem byPriority_of_leads {rs : List Rule} {top : Rule} (h : Leads rs top) :
    ∃ rest, byPriority rs = top :: rest := by
  cases hs : byPriority rs with
  | nil =>
    have hmem := h.mem
    rw [byPriority_eq_nil.mp hs] at hmem
    exact absurd hmem List.not_mem_nil
  | cons top' rest => exact ⟨rest, by rw [(leads_of_byPriority hs).unique h]⟩

/-- Rules apart in priority sort into any arrangement of them that ascends in
priority. -/
theorem byPriority_of_perm {rs sorted : List Rule} (hd : PrioritiesApart rs) (hp : rs.Perm sorted)
    (hs : sorted.Pairwise (·.priority ≤ ·.priority)) : byPriority rs = sorted := by
  rw [byPriority_perm hd hp]
  exact List.mergeSort_of_pairwise (by simpa using hs)

/-! ## The merges -/

/-- The combined limits: their areas intersected left to right, their spatial
filters narrowed, their least permissive catalog mode. -/
theorem mergeLimits_eq (g : GeometryEngine) (sorted : List Rule) :
    mergeLimits g sorted =
      (combineLeft g.intersection ((sorted.filterMap (·.access.limits)).filterMap (·.allowedArea))).map
        fun area => { AccessInfo.unconstrained .limit with
          area
          spatialFilter := ((sorted.filterMap (·.access.limits)).filterMap (·.spatialFilter)).foldl
            narrowFilter none
          catalogMode := leastMode ((sorted.filterMap (·.access.limits)).filterMap (·.catalogMode)) } := by
  simp only [mergeLimits, foldAreas_eq_combineLeft]
  cases combineLeft g.intersection _ <;> rfl

/-- Details are carried by ALLOW accesses, by each one but the bare one. -/
theorem Access.layerDetails_isSome_iff (a : Access) :
    a.layerDetails.isSome ↔ a.grant = .allow ∧ a ≠ .allow none := by
  cases a with
  | allow d => cases d <;> simp [layerDetails, grant]
  | deny => simp [layerDetails, grant]
  | limit l => simp [layerDetails, grant]

/-- Only ALLOW rules carry details. -/
theorem filterMap_layerDetails_allows (rs : List Rule) :
    (rs.filter (·.grant == .allow)).filterMap (·.access.layerDetails) = rs.filterMap (·.access.layerDetails) := by
  induction rs with
  | nil => rfl
  | cons r rs ih =>
    by_cases hg : r.grant = .allow
    · rw [List.filter_cons_of_pos (by simpa using hg), List.filterMap_cons, List.filterMap_cons, ih]
    · have hd : r.access.layerDetails = none :=
        Option.not_isSome_iff_eq_none.mp fun h => hg ((r.access.layerDetails_isSome_iff).mp h).1
      rw [List.filter_cons_of_neg (by simpa using hg)]
      simp only [List.filterMap_cons, hd, ih]

/-- With an ALLOW rule that has no details, the combined details constrain
nothing. -/
theorem mergeAllows_of_bare (g : GeometryEngine) {sorted : List Rule}
    (h : ∃ r ∈ sorted, r.access = .allow none) :
    mergeAllows g sorted = .ok (AccessInfo.unconstrained .allow) := by
  obtain ⟨r, hr, hra⟩ := h
  have hallow : (r.grant == .allow) = true := by simp [Rule.grant, hra, Access.grant]
  have hnone : (sorted.filter (·.grant == .allow)).mapM (fun r : Rule => r.access.layerDetails) = none :=
    mapM_option_eq_none.mpr ⟨r, List.mem_filter.mpr ⟨hr, hallow⟩, by simp [hra, Access.layerDetails]⟩
  simp only [mergeAllows, hnone]
  rfl

/-- The decision the details `D` of the matched ALLOW rules make, with `area`
for its area; the spatial filter is set only when every detail has an area. -/
def allowFields (D : List LayerDetails) (area : Option Geometry) : AccessInfo :=
  { AccessInfo.unconstrained .allow with
    attributes := mergeAttributes D
    allowedStyles := D.foldl (fun s d => OrdSet.union s d.allowedStyles) []
    area
    spatialFilter := (D.mapM fun d : LayerDetails => d.allowedArea).map fun _ =>
      if D.all (·.spatialFilter == some .clip) then .clip else .intersect
    cqlFilterRead := orFilters (D.map (·.cqlFilterRead))
    cqlFilterWrite := orFilters (D.map (·.cqlFilterWrite))
    catalogMode := mostMode (D.filterMap (·.catalogMode))
    defaultStyle := (D.filterMap (·.defaultStyle)).head? }

/-- The combined details of ALLOW rules that all carry details: their areas
united left to right when each has one, every other field read off the
details. -/
theorem mergeAllows_eq (g : GeometryEngine) {sorted : List Rule} (h : ∀ r ∈ sorted, r.access ≠ .allow none) :
    mergeAllows g sorted =
      (match (sorted.filterMap fun r : Rule => r.access.layerDetails).mapM
          fun d : LayerDetails => d.allowedArea with
        | none => (Except.ok none : Except AuthzError (Option Geometry))
        | some areas => combineLeft g.union areas).map
        (allowFields (sorted.filterMap fun r : Rule => r.access.layerDetails)) := by
  have hdetails : (sorted.filter (·.grant == .allow)).mapM (fun r : Rule => r.access.layerDetails) =
      some (sorted.filterMap (·.access.layerDetails)) := by
    rw [mapM_option_of_isSome, filterMap_layerDetails_allows]
    intro r hr
    obtain ⟨hr, hallow⟩ := List.mem_filter.mp hr
    exact (r.access.layerDetails_isSome_iff).mpr ⟨by simpa [Rule.grant] using hallow, h r hr⟩
  simp only [mergeAllows, hdetails]
  cases hm : (sorted.filterMap fun r : Rule => r.access.layerDetails).mapM
      fun d : LayerDetails => d.allowedArea with
  | none =>
    simp only [Except.map, allowFields, hm, Option.map_none]
    rfl
  | some areas =>
    simp only [foldAreas_eq_combineLeft]
    cases combineLeft g.union areas <;> simp only [Except.map, allowFields, hm, Option.map_some] <;> rfl

/-! ## What a LIMIT merge makes of a decision -/

/-- What the limits `L` of the matched LIMIT rules, in ascending priority,
make of a decision `w`, areas intersected by `intersection`. -/
structure LimitMerged (intersection : Geometry → Geometry → Except AuthzError Geometry)
    (L : List RuleLimits) (w : AccessInfo) : Prop where
  /-- The areas that are set, intersected left to right; none when none is. -/
  area : combineLeft intersection (L.filterMap (·.allowedArea)) = .ok w.area
  clip : (∃ l ∈ L, l.spatialFilter = some .clip) → w.spatialFilter = some .clip
  intersect : (∀ l ∈ L, l.spatialFilter ≠ some .clip) → (∃ l ∈ L, l.spatialFilter = some .intersect) →
    w.spatialFilter = some .intersect
  unfiltered : (∀ l ∈ L, l.spatialFilter = none) → w.spatialFilter = none
  /-- The least permissive catalog mode set; none when none is. -/
  catalogMode : ∀ m, w.catalogMode = some m ↔
    m ∈ L.filterMap (·.catalogMode) ∧ ∀ m' ∈ L.filterMap (·.catalogMode), m.rank ≤ m'.rank

theorem limitMerged_fields {intersection : Geometry → Geometry → Except AuthzError Geometry}
    {L : List RuleLimits} {area : Option Geometry}
    (harea : combineLeft intersection (L.filterMap (·.allowedArea)) = .ok area) (ids : List Nat) :
    LimitMerged intersection L
      { AccessInfo.unconstrained .limit with
        matchingRuleIds := ids
        area
        spatialFilter := (L.filterMap (·.spatialFilter)).foldl narrowFilter none
        catalogMode := leastMode (L.filterMap (·.catalogMode)) } := by
  refine ⟨harea, fun hclip => ?_, fun hnoclip hsome => ?_, fun hnone => ?_, fun m => leastMode_eq_some_iff⟩
  · have hmem : .clip ∈ L.filterMap (·.spatialFilter) := List.mem_filterMap.mpr hclip
    simp [foldl_narrowFilter, hmem]
  · have hmem : .clip ∉ L.filterMap (·.spatialFilter) := fun h => by
      obtain ⟨l, hl, hf⟩ := List.mem_filterMap.mp h
      exact hnoclip l hl hf
    have hne : L.filterMap (·.spatialFilter) ≠ [] := by
      obtain ⟨l, hl, hf⟩ := hsome
      exact List.ne_nil_of_mem (List.mem_filterMap.mpr ⟨l, hl, hf⟩)
    simp [foldl_narrowFilter, hmem, hne]
  · have hnil : L.filterMap (·.spatialFilter) = [] := List.filterMap_eq_nil_iff.mpr hnone
    simp [hnil]

/-! ## What an ALLOW merge makes of a decision -/

/-- What the details `D` of the matched ALLOW rules, in ascending priority,
make of a decision `w`, areas united by `union`. -/
structure AllowMerged (union : Geometry → Geometry → Except AuthzError Geometry)
    (D : List LayerDetails) (w : AccessInfo) : Prop where
  /-- Each attribute named in `D` at the most permissive level given it. -/
  attributes : LevelMap (D.flatMap (·.attributes)) w.attributes
  styles : ∀ s, s ∈ w.allowedStyles ↔ ∃ d ∈ D, s ∈ d.allowedStyles
  stylesSorted : w.allowedStyles.Pairwise (· < ·)
  /-- When every detail has an area, the areas united left to right, clipped
  only when every detail clips. -/
  area : (∀ d ∈ D, d.allowedArea.isSome) →
    combineLeft union (D.filterMap (·.allowedArea)) = .ok w.area ∧
      w.spatialFilter = some (if ∀ d ∈ D, d.spatialFilter = some .clip then .clip else .intersect)
  unrestricted : (∃ d ∈ D, d.allowedArea = none) → w.area = none ∧ w.spatialFilter = none
  cqlFilterRead : JoinedFilter (D.map (·.cqlFilterRead)) w.cqlFilterRead
  cqlFilterWrite : JoinedFilter (D.map (·.cqlFilterWrite)) w.cqlFilterWrite
  /-- The most permissive catalog mode set; none when none is. -/
  catalogMode : ∀ m, w.catalogMode = some m ↔
    m ∈ D.filterMap (·.catalogMode) ∧ ∀ m' ∈ D.filterMap (·.catalogMode), m'.rank ≤ m.rank
  /-- The first default style set. -/
  defaultStyle : w.defaultStyle = D.findSome? (·.defaultStyle)

theorem allowMerged_allowFields {union : Geometry → Geometry → Except AuthzError Geometry}
    {D : List LayerDetails} {area : Option Geometry}
    (harea : (match D.mapM fun d : LayerDetails => d.allowedArea with
      | none => (Except.ok none : Except AuthzError (Option Geometry))
      | some areas => combineLeft union areas) = .ok area) (ids : List Nat) :
    AllowMerged union D { allowFields D area with matchingRuleIds := ids } := by
  refine ⟨levelMap_mergeAttributes D, fun s => ?_, pairwise_foldl_union D List.Pairwise.nil,
    fun hall => ?_, fun hlack => ?_, joinedFilter_orFilters _, joinedFilter_orFilters _,
    fun m => mostMode_eq_some_iff, List.head?_filterMap⟩
  · simp [allowFields, mem_foldl_union]
  · have hsome := mapM_option_of_isSome hall
    rw [hsome] at harea
    refine ⟨harea, ?_⟩
    simp only [allowFields, hsome, Option.map_some, List.all_eq_true, beq_iff_eq]
  · obtain ⟨d, hd, hnone⟩ := hlack
    have hmiss := mapM_option_eq_none.mpr ⟨d, hd, hnone⟩
    rw [hmiss] at harea
    simp only [allowFields, hmiss, Option.map_none, and_true]
    exact (Except.ok.inj harea).symm

/-! ## Decisions behind a leading LIMIT or ALLOW rule -/

/-- Behind a leading LIMIT rule a decision narrows: whenever it succeeds it is
a LIMIT decision listing every matched identifier, whose area, spatial filter
and catalog mode come from the limits of the matched LIMIT rules alone, and
which constrains nothing else. -/
theorem limit_merge_narrows (g : GeometryEngine) {rs : List Rule} {top : Rule} (hlead : Leads rs top)
    (hlimit : top.grant = .limit) {w : AccessInfo} (h : coalesce g rs = .ok w) :
    w = { AccessInfo.unconstrained .limit with
          matchingRuleIds := OrdSet.ofList (rs.filterMap (·.id))
          area := w.area
          spatialFilter := w.spatialFilter
          catalogMode := w.catalogMode } ∧
      LimitMerged g.intersection ((byPriority rs).filterMap (·.access.limits)) w := by
  obtain ⟨rest, hs⟩ := byPriority_of_leads hlead
  rw [coalesce_of_byPriority g hs, hlimit] at h
  obtain ⟨m, hm, rfl⟩ := map_eq_ok.mp h
  rw [mergeLimits_eq, map_eq_ok] at hm
  obtain ⟨area, harea, rfl⟩ := hm
  rw [← hs, ofList_ids_byPriority] at *
  exact ⟨rfl, limitMerged_fields harea _⟩

/-- The LIMIT rule at 1: it limits area `A` and shows the layer as CHALLENGE. -/
def limitsTop : Rule :=
  (((Rule.ofGrant .limit).withId 1).withPriority 1).withLimits
    { allowedArea := some { wkt := "A" }
      catalogMode := some .challenge }

/-- LIMIT rules at 1, 2 and 3 over an ALLOW rule at 4, in ascending priority:
after `limitsTop`, a rule that limits area `B`, clips and hides the layer, and
one that sets nothing. -/
def limitsOverAllow : List Rule :=
  [limitsTop,
   (((Rule.ofGrant .limit).withId 2).withPriority 2).withLimits
     { allowedArea := some { wkt := "B" }
       spatialFilter := some .clip
       catalogMode := some .hide },
   ((Rule.ofGrant .limit).withId 3).withPriority 3,
   ((Rule.ofGrant .allow).withId 4).withPriority 4]

/-- The decision on `limitsOverAllow` by the engine that writes combinations
down: LIMIT on `INTERSECTION(A, B)`, clipped and hidden, on all four rules. -/
def narrowed : AccessInfo :=
  { grant := .limit
    matchingRuleIds := [1, 2, 3, 4]
    area := some { wkt := "INTERSECTION(A, B)" }
    spatialFilter := some .clip
    catalogMode := some .hide }

/-- Given in reverse order, the rules narrow to `narrowed`, which is the LIMIT
merge of their limits. -/
theorem limitsOverAllow_narrows :
    Leads limitsOverAllow.reverse limitsTop ∧ limitsTop.grant = .limit ∧
      coalesce .symbolic limitsOverAllow.reverse = .ok narrowed ∧
      LimitMerged GeometryEngine.symbolic.intersection
        ((byPriority limitsOverAllow.reverse).filterMap (·.access.limits)) narrowed :=
  have hs : byPriority limitsOverAllow.reverse = limitsOverAllow :=
    byPriority_of_perm (by unfold PrioritiesApart; decide) (List.reverse_perm _) (by decide)
  have hlead : Leads limitsOverAllow.reverse limitsTop := leads_of_byPriority hs
  have hc : coalesce .symbolic limitsOverAllow.reverse = .ok narrowed := by
    rw [coalesce_of_byPriority _ hs]
    decide +kernel
  ⟨hlead, rfl, hc, (limit_merge_narrows .symbolic hlead rfl hc).2⟩

/-- Behind a leading ALLOW rule a decision widens. An ALLOW rule without
details lifts every constraint. Otherwise, whenever the decision succeeds, it
is an ALLOW decision listing every matched identifier whose constraints merge
the details of the matched ALLOW rules, in ascending priority. -/
theorem allow_merge_widens (g : GeometryEngine) {rs : List Rule} {top : Rule} (hlead : Leads rs top)
    (hallow : top.grant = .allow) :
    ((∃ r ∈ rs, r.access = .allow none) →
      coalesce g rs = .ok { AccessInfo.unconstrained .allow with
        matchingRuleIds := OrdSet.ofList (rs.filterMap (·.id)) }) ∧
    ∀ w, (∀ r ∈ rs, r.access ≠ .allow none) → coalesce g rs = .ok w →
      w.grant = .allow ∧ w.matchingRuleIds = OrdSet.ofList (rs.filterMap (·.id)) ∧
        AllowMerged g.union ((byPriority rs).filterMap (·.access.layerDetails)) w := by
  obtain ⟨rest, hs⟩ := byPriority_of_leads hlead
  have hids := ofList_ids_byPriority rs
  rw [hs] at hids
  refine ⟨fun hbare => ?_, fun w hdetails h => ?_⟩
  · have hbare' : ∃ r ∈ top :: rest, r.access = .allow none := by
      simpa only [← hs, mem_byPriority] using hbare
    rw [coalesce_of_byPriority g hs, hallow, mergeAllows_of_bare g hbare', ← hids]
    rfl
  · have hdetails' : ∀ r ∈ top :: rest, r.access ≠ .allow none := by
      simpa only [← hs, mem_byPriority] using hdetails
    rw [coalesce_of_byPriority g hs, hallow, mergeAllows_eq g hdetails'] at h
    obtain ⟨m, hm, rfl⟩ := map_eq_ok.mp h
    obtain ⟨area, harea, rfl⟩ := map_eq_ok.mp hm
    rw [hs, ← hids]
    exact ⟨rfl, rfl, allowMerged_allowFields harea _⟩

/-- The ALLOW rule at 1: a read filter `x > 1` and catalog mode HIDE. -/
def allowsTop : Rule :=
  ((Rule.ofAccess (.allow (some { cqlFilterRead := some "x > 1", catalogMode := some .hide }))).withId 1).withPriority 1

/-- Two ALLOW rules with details, in ascending priority: after `allowsTop`, one
with a read filter `y < 2`, a write filter `y < 0`, catalog mode MIXED and
default style `plain`. -/
def twoAllows : List Rule :=
  [allowsTop,
   ((Rule.ofAccess (.allow (some
      { cqlFilterRead := some "y < 2"
        cqlFilterWrite := some "y < 0"
        catalogMode := some .mixed
        defaultStyle := some "plain" }))).withId 2).withPriority 2]

/-- The decision on `twoAllows` without a geometry engine: the read filter
`(x > 1) OR (y < 2)`, no write filter, catalog mode MIXED, default style
`plain`. -/
def widened : AccessInfo :=
  { grant := .allow
    matchingRuleIds := [1, 2]
    cqlFilterRead := some "(x > 1) OR (y < 2)"
    catalogMode := some .mixed
    defaultStyle := some "plain" }

/-- Given in reverse order, the rules widen to `widened`, which is the ALLOW
merge of their details. -/
theorem twoAllows_widen :
    Leads twoAllows.reverse allowsTop ∧ allowsTop.grant = .allow ∧
      (∀ r ∈ twoAllows.reverse, r.access ≠ .allow none) ∧
      coalesce .unsupported twoAllows.reverse = .ok widened ∧
      AllowMerged GeometryEngine.unsupported.union
        ((byPriority twoAllows.reverse).filterMap (·.access.layerDetails)) widened :=
  have hs : byPriority twoAllows.reverse = twoAllows :=
    byPriority_of_perm (by unfold PrioritiesApart; decide) (List.reverse_perm _) (by decide)
  have hlead : Leads twoAllows.reverse allowsTop := leads_of_byPriority hs
  have hdetails : ∀ r ∈ twoAllows.reverse, r.access ≠ .allow none := by decide
  have hc : coalesce .unsupported twoAllows.reverse = .ok widened := by
    rw [coalesce_of_byPriority _ hs]
    decide +kernel
  ⟨hlead, rfl, hdetails, hc, ((allow_merge_widens .unsupported hlead rfl).2 _ hdetails hc).2.2⟩

end GeoAccess
