import GeoAccess.Decision.Info

/-!
# Merging matched rules into a decision

The rules that match a request are ordered by priority, the lowest value
first and ties in the order given. The first rule decides the grant; all
matched rules are listed as the decision's basis. What else the decision
carries depends on the grant:

- DENY carries nothing more.
- LIMIT narrows: the limits of every matched LIMIT rule are combined. Their
  areas are intersected left to right, the spatial filter is CLIP if any says
  CLIP and INTERSECT if any says anything, and the catalog mode is the least
  permissive one given.
- ALLOW widens: if some matched ALLOW rule has no layer details the decision
  is unconstrained. Otherwise the details of all matched ALLOW rules are
  combined: each attribute gets the most permissive level it is given, the
  style sets are joined, the areas are united left to right when every detail
  has one (the filter is then CLIP if every detail says CLIP, else INTERSECT),
  a read or write filter is kept only when every detail has one (several are
  joined as `(f1) OR (f2) …`), the catalog mode is the most permissive one
  given, and the default style is the first one given.

Areas are combined only by the geometry engine, one call per area after the
first, and its first refusal is the answer.
-/

namespace GeoAccess

/-- Rules in ascending priority, ties kept in the order given. -/
def byPriority (rules : List Rule) : List Rule :=
  rules.mergeSort fun a b => decide (a.priority ≤ b.priority)

/-- Combines areas left to right with `combine`, starting from `acc`. -/
def foldAreas (combine : Geometry → Geometry → Except AuthzError Geometry) :
    Option Geometry → List Geometry → Except AuthzError (Option Geometry)
  | acc, [] => .ok acc
  | none, g :: gs => foldAreas combine (some g) gs
  | some cur, g :: gs =>
    match combine cur g with
    | .ok m => foldAreas combine (some m) gs
    | .error e => .error e

/-- The spatial filter of combined limits: CLIP wins over INTERSECT. -/
def narrowFilter : Option SpatialFilter → SpatialFilter → Option SpatialFilter
  | some .clip, _ => some .clip
  | _, .clip => some .clip
  | _, _ => some .intersect

/-- The least permissive of the given catalog modes. -/
def leastMode : List CatalogMode → Option CatalogMode
  | [] => none
  | m :: ms => some (ms.foldl CatalogMode.min m)

/-- The most permissive of the given catalog modes. -/
def mostMode : List CatalogMode → Option CatalogMode
  | [] => none
  | m :: ms => some (ms.foldl CatalogMode.max m)

/-- Filters joined as alternatives: none unless every detail has one, a single
one as it is, several as `(f1) OR (f2) …`. -/
def orFilters (filters : List (Option String)) : Option String :=
  match filters.mapM id with
  | none => none
  | some [] => none
  | some [f] => some f
  | some fs => some (" OR ".intercalate (fs.map fun f => "(" ++ f ++ ")"))

/-- The combined limits of the matched LIMIT rules. -/
def mergeLimits (engine : GeometryEngine) (sorted : List Rule) : Except AuthzError AccessInfo := do
  let limits := sorted.filterMap (·.access.limits)
  let area ← foldAreas engine.intersection none (limits.filterMap (·.allowedArea))
  return { AccessInfo.unconstrained .limit with
    area
    spatialFilter := (limits.filterMap (·.spatialFilter)).foldl narrowFilter none
    catalogMode := leastMode (limits.filterMap (·.catalogMode)) }

/-- The attribute map of details: every name with its most permissive level. -/
def mergeAttributes (details : List LayerDetails) : List (String × AccessLevel) :=
  (details.flatMap (·.attributes)).foldl (fun m a => insertLevel a.name a.access m) []

/-- The combined details of the matched ALLOW rules. -/
def mergeAllows (engine : GeometryEngine) (sorted : List Rule) : Except AuthzError AccessInfo := do
  let allows := sorted.filter (·.grant == .allow)
  match allows.mapM (·.access.layerDetails) with
  | none => return AccessInfo.unconstrained .allow
  | some details =>
    let (area, spatialFilter) ← match details.mapM (·.allowedArea) with
      | none => pure (none, none)
      | some areas => do
        let area ← foldAreas engine.union none areas
        let allClip := details.all (·.spatialFilter == some .clip)
        pure (area, some (if allClip then SpatialFilter.clip else .intersect))
    return { AccessInfo.unconstrained .allow with
      attributes := mergeAttributes details
      allowedStyles := details.foldl (fun s d => OrdSet.union s d.allowedStyles) []
      area
      spatialFilter
      cqlFilterRead := orFilters (details.map (·.cqlFilterRead))
      cqlFilterWrite := orFilters (details.map (·.cqlFilterWrite))
      catalogMode := mostMode (details.filterMap (·.catalogMode))
      defaultStyle := (details.filterMap (·.defaultStyle)).head? }

/-- The decision on a list of matched rules. -/
def coalesce (engine : GeometryEngine) (rules : List Rule) : Except AuthzError AccessInfo :=
  let sorted := byPriority rules
  match sorted with
  | [] => .ok AccessInfo.denyAll
  | top :: _ =>
    let ids := OrdSet.ofList (sorted.filterMap (·.id))
    let merged : Except AuthzError AccessInfo := match top.grant with
      | .deny => .ok AccessInfo.denyAll
      | .limit => mergeLimits engine sorted
      | .allow => mergeAllows engine sorted
    merged.map ({ · with matchingRuleIds := ids })

end GeoAccess
