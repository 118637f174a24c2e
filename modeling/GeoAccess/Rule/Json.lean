import GeoAccess.Rule.Basic
import GeoAccess.Data.Decode

/-!
# Rules as JSON

A rule is one flat object: its own members (`id`, `external_id`, `name`,
`description`, `priority`), the identifier's dimensions beside them, and the
grant under the key `grant` together with the payload member of that grant
(`layer_details` for ALLOW, `limits` for LIMIT).

Writing leaves out every absent member and every empty set or list; the
priority and the grant are always written, the address range in its canonical
form.

Reading follows the layout: the rule's own members are read where they stand,
then the identifier from the remaining members, then the grant and its
payload from what is left. A payload member of another grant is ignored, as
is every unknown member. An address range that is no signature is refused
with the model's own failure.
-/

namespace GeoAccess

/-! ### Writing -/

namespace Geometry

/-- The object of a geometry. -/
def toJson (g : Geometry) : Json :=
  .present [("srid", g.srid.map Json.nat), ("wkt", some (.str g.wkt))]

end Geometry

/-- The object of an attribute. -/
def LayerAttribute.toJson (a : LayerAttribute) : Json :=
  .present [("name", some (.str a.name)), ("data_type", a.dataType.map .str),
    ("access", some (.str a.access.name))]

/-- A list, or nothing when it is empty. -/
def Json.nonEmpty {α : Type} (f : α → Json) : List α → Option Json
  | [] => none
  | xs => some (.arr (xs.map f))

/-- The object of layer details. -/
def LayerDetails.toJson (d : LayerDetails) : Json :=
  .present [("default_style", d.defaultStyle.map .str),
    ("cql_filter_read", d.cqlFilterRead.map .str),
    ("cql_filter_write", d.cqlFilterWrite.map .str),
    ("allowed_area", d.allowedArea.map Geometry.toJson),
    ("spatial_filter_type", d.spatialFilter.map (.str ·.name)),
    ("catalog_mode", d.catalogMode.map (.str ·.name)),
    ("allowed_styles", Json.nonEmpty .str d.allowedStyles),
    ("attributes", Json.nonEmpty LayerAttribute.toJson d.attributes)]

/-- The object of rule limits. -/
def RuleLimits.toJson (l : RuleLimits) : Json :=
  .present [("allowed_area", l.allowedArea.map Geometry.toJson),
    ("spatial_filter_type", l.spatialFilter.map (.str ·.name)),
    ("catalog_mode", l.catalogMode.map (.str ·.name))]

/-- The members of an access: the grant and its payload if any. -/
def Access.members : Access → List (String × Option Json)
  | .allow d => [("grant", some (.str "ALLOW")), ("layer_details", d.map LayerDetails.toJson)]
  | .deny => [("grant", some (.str "DENY"))]
  | .limit l => [("grant", some (.str "LIMIT")), ("limits", l.map RuleLimits.toJson)]

/-- The members of an identifier: its fixed dimensions. -/
def RuleIdentifier.members (i : RuleIdentifier) : List (String × Option Json) :=
  [("instance", i.instanceName.map .str), ("username", i.username.map .str),
   ("rolename", i.rolename.map .str), ("service", i.service.map .str),
   ("request", i.request.map .str), ("subfield", i.subfield.map .str),
   ("workspace", i.workspace.map .str), ("layer", i.layer.map .str),
   ("address_range", i.addressRange.map (.str ·.render))]

/-- The object of an identifier. -/
def RuleIdentifier.toJson (i : RuleIdentifier) : Json :=
  .present i.members

/-- The object of a rule. -/
def Rule.toJson (r : Rule) : Json :=
  .present ([("id", r.id.map Json.nat), ("external_id", r.externalId.map .str),
    ("name", r.name.map .str), ("description", r.description.map .str),
    ("priority", some (.int r.priority))] ++ r.ident.members ++ r.access.members)

/-! ### Reading -/

namespace Decode

/-- Reads one member of a geometry. -/
def geometryStep (acc : Option Nat × Option String) (k : String) (v : Datum) :
    Except DecodeError (Option Nat × Option String) :=
  match k with
  | "srid" => do return ((← option u32 v), acc.2)
  | _ => do return (acc.1, some (← text v))

/-- A geometry: an object, or the sequence of its reference system and its
text. -/
def geometry : Decoder Geometry
  | .seq items => do
    let ((srid, wkt), _) ← elements geometryStep (none, none) ["srid", "wkt"] items 0
    let wkt ← requiredAt 1 "struct Geometry with 2 elements" wkt
    return { srid, wkt }
  | j => do
    let fields ← object "struct Geometry" j
    let (srid, wkt) ← members ["srid", "wkt"] geometryStep (none, none) [] fields
    let wkt ← required "wkt" wkt
    return { srid, wkt }

/-- A spatial filter name. -/
def spatialFilter : Decoder SpatialFilter :=
  enumName SpatialFilter.named

/-- A catalog mode name. -/
def catalogMode : Decoder CatalogMode :=
  enumName CatalogMode.named

/-- The members of an attribute read so far. -/
abbrev AttributeParts := Option String × Option String × Option AccessLevel

/-- Reads one member of an attribute. -/
def attributeStep (acc : AttributeParts) (k : String) (v : Datum) : Except DecodeError AttributeParts :=
  match k with
  | "name" => do return (some (← text v), acc.2)
  | "data_type" => do return (acc.1, (← option text v), acc.2.2)
  | _ => do return (acc.1, acc.2.1, some (← enumName AccessLevel.named v))

/-- The keys of an attribute, in the order it declares them. -/
def attributeKeys : List String := ["name", "data_type", "access"]

/-- An attribute: an object, or the sequence of its name, data type and
access level. -/
def layerAttribute : Decoder LayerAttribute
  | .seq items => do
    let ((name, dataType, access), _) ← elements attributeStep (none, none, none) attributeKeys items 0
    let name ← requiredAt 0 "struct LayerAttribute with 3 elements" name
    let access ← requiredAt 2 "struct LayerAttribute with 3 elements" access
    return { name, dataType, access }
  | j => do
    let fields ← object "struct LayerAttribute" j
    let (name, dataType, access) ← members attributeKeys attributeStep (none, none, none) [] fields
    let name ← required "name" name
    let access ← required "access" access
    return { name, dataType, access }

/-- The keys of layer details, in the order they are declared. -/
def detailKeys : List String :=
  ["default_style", "cql_filter_read", "cql_filter_write", "allowed_area",
   "spatial_filter_type", "catalog_mode", "allowed_styles", "attributes"]

/-- Reads one member of layer details. -/
def detailStep (d : LayerDetails) (k : String) (v : Datum) : Except DecodeError LayerDetails :=
  match k with
  | "default_style" => do return { d with defaultStyle := ← option text v }
  | "cql_filter_read" => do return { d with cqlFilterRead := ← option text v }
  | "cql_filter_write" => do return { d with cqlFilterWrite := ← option text v }
  | "allowed_area" => do return { d with allowedArea := ← option geometry v }
  | "spatial_filter_type" => do return { d with spatialFilter := ← option spatialFilter v }
  | "catalog_mode" => do return { d with catalogMode := ← option catalogMode v }
  | "allowed_styles" => do return { d with allowedStyles := ← textSet v }
  | _ => do return { d with attributes := ← list layerAttribute v }

/-- Layer details; every member may be absent. They are an object, or the
sequence of the first members in the order of `detailKeys`. -/
def layerDetails : Decoder LayerDetails
  | .seq items => do return (← elements detailStep {} detailKeys items 0).1
  | j => do
    let fields ← object "struct LayerDetails" j
    members detailKeys detailStep {} [] fields

/-- The keys of rule limits, in the order they are declared. -/
def limitKeys : List String := ["allowed_area", "spatial_filter_type", "catalog_mode"]

/-- Reads one member of rule limits. -/
def limitStep (l : RuleLimits) (k : String) (v : Datum) : Except DecodeError RuleLimits :=
  match k with
  | "allowed_area" => do return { l with allowedArea := ← option geometry v }
  | "spatial_filter_type" => do return { l with spatialFilter := ← option spatialFilter v }
  | _ => do return { l with catalogMode := ← option catalogMode v }

/-- Rule limits; every member may be absent. They are an object, or the
sequence of the first members in the order of `limitKeys`. -/
def ruleLimits : Decoder RuleLimits
  | .seq items => do return (← elements limitStep {} limitKeys items 0).1
  | j => do
    let fields ← object "struct RuleLimits" j
    members limitKeys limitStep {} [] fields

/-- An address range signature. -/
def addressRange (j : Datum) : Except DecodeError AddressRange := do
  let s ← text j
  match AddressRange.parse s with
  | .ok r => return r
  | .error e => throw (.model e)

/-- The keys of an identifier. -/
def identifierKeys : List String :=
  ["instance", "username", "rolename", "service", "request", "subfield", "workspace",
   "layer", "address_range"]

/-- Reads one dimension of an identifier. -/
def identifierStep (i : RuleIdentifier) (k : String) (v : Datum) :
    Except DecodeError RuleIdentifier :=
  match k with
  | "instance" => do return { i with instanceName := ← option text v }
  | "username" => do return { i with username := ← option text v }
  | "rolename" => do return { i with rolename := ← option text v }
  | "service" => do return { i with service := ← option text v }
  | "request" => do return { i with request := ← option text v }
  | "subfield" => do return { i with subfield := ← option text v }
  | "workspace" => do return { i with workspace := ← option text v }
  | "layer" => do return { i with layer := ← option text v }
  | _ => do return { i with addressRange := ← option addressRange v }

/-- An identifier from the members of an object; the others are ignored. -/
def identifierOf (fields : List (String × Datum)) : Except DecodeError RuleIdentifier :=
  members identifierKeys identifierStep {} [] (byName fields)

/-- An identifier. -/
def identifier (j : Datum) : Except DecodeError RuleIdentifier := do
  identifierOf (textKeyed (← object "struct RuleIdentifier" j))

/-- Finds the grant among members: it is read where it stands, a second one is
refused, and its absence is refused after the last member. -/
def grantOf : Option Grant → List (String × Datum) → Except DecodeError Grant
  | some g, [] => .ok g
  | none, [] => .error (.missingField "grant")
  | found, (k, v) :: rest =>
    if k = "grant" then
      if found.isSome then .error (.duplicateField "grant")
      else
        match variant Grant.named v with
        | .ok g => grantOf (some g) rest
        | .error e => .error e
    else grantOf found rest

/-- An access from the members of an object: the grant, then the payload
member of that grant. -/
def accessOf (fields : List (String × Datum)) : Except DecodeError Access := do
  let g ← grantOf none fields
  let payload := fields.filter (·.1 != "grant")
  match g with
  | .allow =>
    let d ← members ["layer_details"] (fun _ _ v => option layerDetails v) none [] (byName payload)
    return .allow d
  | .deny => return .deny
  | .limit =>
    let l ← members ["limits"] (fun _ _ v => option ruleLimits v) none [] (byName payload)
    return .limit l

/-- An access. -/
def access (j : Datum) : Except DecodeError Access := do
  accessOf (textKeyed (← object "internally tagged enum Access" j))

/-- The rule's own members. -/
def ownKeys : List String := ["id", "external_id", "name", "description", "priority"]

/-- Reads one of the rule's own members. -/
def ownStep (r : Rule) (k : String) (v : Datum) : Except DecodeError Rule :=
  match k with
  | "id" => do return { r with id := ← option u64 v }
  | "external_id" => do return { r with externalId := ← option text v }
  | "name" => do return { r with name := ← option text v }
  | "description" => do return { r with description := ← option text v }
  | _ => do return { r with priority := ← i64 v }

/-- A rule from the members of an object. -/
def ruleOf (fields : List (String × Datum)) : Except DecodeError Rule := do
  let r ← members ownKeys ownStep (Rule.ofGrant .deny) [] (byName fields)
  let rest := fields.filter (·.1 ∉ ownKeys)
  let ident ← identifierOf rest
  let access ← accessOf (rest.filter (·.1 ∉ identifierKeys))
  return { r with ident, access }

/-- A rule. -/
def rule (j : Datum) : Except DecodeError Rule := do
  ruleOf (textKeyed (← object "struct Rule" j))

end Decode

end GeoAccess
