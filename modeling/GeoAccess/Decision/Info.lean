import GeoAccess.Rule.Json
import GeoAccess.Admin.Rule

/-!
# Access decisions

The answer to a data access request (`AccessInfo`) and to an admin request
(`AdminAccessInfo`).

An access decision carries the grant, the identifiers of the rules it rests
on, the constraints merged from them (attribute levels, styles, area, spatial
filter, catalog mode, default style, read and write filters) and what the
admin rules say about the request's workspace. The rule identifiers form a set
and the attributes a map sorted by name.

- `AccessInfo.unconstrained g` decides `g` and constrains nothing;
  `AccessInfo.denyAll` is the unconstrained DENY.
- `dependsOnRule` and `dependsOnAdminRule` tell whether a decision rests on a
  rule, which is what a change of that rule must invalidate.
-/

namespace GeoAccess

/-- The decision on a data access request. -/
structure AccessInfo where
  grant : Grant
  /-- A set, ascending. -/
  matchingRuleIds : List Nat := []
  /-- A map sorted by attribute name. -/
  attributes : List (String × AccessLevel) := []
  /-- A set, ascending. -/
  allowedStyles : List String := []
  area : Option Geometry := none
  spatialFilter : Option SpatialFilter := none
  catalogMode : Option CatalogMode := none
  defaultStyle : Option String := none
  cqlFilterRead : Option String := none
  cqlFilterWrite : Option String := none
  adminRights : Bool := false
  matchingAdminRuleId : Option Nat := none
  deriving DecidableEq, Repr

/-- The decision on an admin request. -/
structure AdminAccessInfo where
  admin : Bool := false
  workspace : Option String := none
  matchingAdminRuleId : Option Nat := none
  deriving DecidableEq, Repr

namespace AccessInfo

/-- A decision of a grant with no constraint. -/
def unconstrained (g : Grant) : AccessInfo := { grant := g }

/-- The decision that denies everything. -/
def denyAll : AccessInfo := unconstrained .deny

/-- Whether the decision lets the request through at all. -/
def isAllowed (i : AccessInfo) : Bool := i.grant != .deny

/-- Whether the decision rests on a rule. -/
def dependsOnRule (i : AccessInfo) (id : Nat) : Bool := i.matchingRuleIds.contains id

/-- Whether the decision rests on an admin rule. -/
def dependsOnAdminRule (i : AccessInfo) (id : Nat) : Bool := i.matchingAdminRuleId == some id

/-- The object of a decision: grant and admin rights always, the rest when
present or nonempty. -/
def toJson (i : AccessInfo) : Json :=
  .present [("grant", some (.str i.grant.name)),
    ("matching_rule_ids", Json.nonEmpty Json.nat i.matchingRuleIds),
    ("attributes", match i.attributes with
      | [] => none
      | as => some (.obj (as.map fun (n, l) => (n, .str l.name)))),
    ("allowed_styles", Json.nonEmpty .str i.allowedStyles),
    ("area", i.area.map Geometry.toJson),
    ("spatial_filter_type", i.spatialFilter.map (.str ·.name)),
    ("catalog_mode", i.catalogMode.map (.str ·.name)),
    ("default_style", i.defaultStyle.map .str),
    ("cql_filter_read", i.cqlFilterRead.map .str),
    ("cql_filter_write", i.cqlFilterWrite.map .str),
    ("admin_rights", some (.bool i.adminRights)),
    ("matching_admin_rule_id", i.matchingAdminRuleId.map Json.nat)]

end AccessInfo

namespace AdminAccessInfo

/-- Whether the decision rests on an admin rule. -/
def dependsOnAdminRule (i : AdminAccessInfo) (id : Nat) : Bool :=
  i.matchingAdminRuleId == some id

/-- The object of an admin decision. -/
def toJson (i : AdminAccessInfo) : Json :=
  .present [("admin", some (.bool i.admin)), ("workspace", i.workspace.map .str),
    ("matching_admin_rule_id", i.matchingAdminRuleId.map Json.nat)]

end AdminAccessInfo

/-- Puts an attribute level into a map sorted by name, keeping the more
permissive level of a name met twice. -/
def insertLevel (name : String) (level : AccessLevel) :
    List (String × AccessLevel) → List (String × AccessLevel)
  | [] => [(name, level)]
  | (n, l) :: rest =>
    if name < n then (name, level) :: (n, l) :: rest
    else if name = n then (n, l.max level) :: rest
    else (n, l) :: insertLevel name level rest

namespace Decode

/-- An attribute map. -/
def levelMap (j : Datum) : Except DecodeError (List (String × AccessLevel)) := do
  let fields := textKeyed (← object "a map" j)
  fields.foldlM (fun acc (k, v) => do
    let l ← enumValue AccessLevel.named v
    return insertLevel k l (acc.filter (·.1 != k))) []

/-- Reads one member of a decision. -/
def infoStep (acc : AccessInfo × Option Grant) (k : String) (v : Datum) :
    Except DecodeError (AccessInfo × Option Grant) :=
  let (i, g) := acc
  match k with
  | "grant" => do return (i, some (← enumValue Grant.named v))
  | "matching_rule_ids" => do return ({ i with matchingRuleIds := OrdSet.ofList (← list u64 v) }, g)
  | "attributes" => do return ({ i with attributes := ← levelMap v }, g)
  | "allowed_styles" => do return ({ i with allowedStyles := ← textSet v }, g)
  | "area" => do return ({ i with area := ← option geometry v }, g)
  | "spatial_filter_type" => do return ({ i with spatialFilter := ← option spatialFilter v }, g)
  | "catalog_mode" => do return ({ i with catalogMode := ← option catalogMode v }, g)
  | "default_style" => do return ({ i with defaultStyle := ← option text v }, g)
  | "cql_filter_read" => do return ({ i with cqlFilterRead := ← option text v }, g)
  | "cql_filter_write" => do return ({ i with cqlFilterWrite := ← option text v }, g)
  | "admin_rights" => do return ({ i with adminRights := ← bool v }, g)
  | _ => do return ({ i with matchingAdminRuleId := ← option u64 v }, g)

/-- A decision; `grant` is required. -/
def accessInfo (j : Datum) : Except DecodeError AccessInfo := do
  let fields ← object "struct AccessInfo" j
  let (i, g) ← members ["grant", "matching_rule_ids", "attributes", "allowed_styles", "area",
    "spatial_filter_type", "catalog_mode", "default_style", "cql_filter_read",
    "cql_filter_write", "admin_rights", "matching_admin_rule_id"] infoStep
    (AccessInfo.denyAll, none) [] fields
  let g ← required "grant" g
  return { i with grant := g }

/-- An admin decision; `admin` is required. -/
def adminAccessInfo (j : Datum) : Except DecodeError AdminAccessInfo := do
  let fields ← object "struct AdminAccessInfo" j
  let (i, a) ← members ["admin", "workspace", "matching_admin_rule_id"]
    (fun (acc : AdminAccessInfo × Option Bool) k v =>
      let (i, a) := acc
      match k with
      | "admin" => do return (i, some (← bool v))
      | "workspace" => do return ({ i with workspace := ← option text v }, a)
      | _ => do return ({ i with matchingAdminRuleId := ← option u64 v }, a))
    ({}, none) [] fields
  let a ← required "admin" a
  return { i with admin := a }

end Decode

end GeoAccess
