import GeoAccess.Address.Range
import GeoAccess.Geometry
import GeoAccess.Rule.Grant
import GeoAccess.Data.OrdSet

/-!
# Rules

A rule maps an identifier (who, where, what) to a grant. Each dimension of
the identifier is either a fixed value or the wildcard (`none`), which matches
anything. The payload lives inside the grant: an ALLOW rule may carry
`LayerDetails`, a LIMIT rule may carry `RuleLimits`, and a DENY rule carries
nothing, so a DENY rule with layer details cannot be written down.

A rule's priority orders it against the others: the lower value takes
precedence. Its identifier (`id`) is handed out by the store that keeps it.

- `RuleId.parse` reads an identifier after trimming blanks.
- `RuleIdentifier.render` lists the fixed dimensions as `label=value`.
- The `with…` functions build rules as values; `withLayerDetails` and
  `withLimits` change the payload only of a rule of the matching grant.
-/

namespace GeoAccess

/-- Reads a store identifier: blanks trimmed, then an unsigned 64-bit decimal.
The failure keeps the text as given. -/
def RuleId.parse (raw : String) : Except AuthzError Nat :=
  match Numeral.readUnsigned Numeral.u64Max (Text.trimBlank raw) with
  | .ok n => .ok n
  | .error _ => .error (.invalidId raw)

/-- An attribute of a layer and how far it may be used. -/
structure LayerAttribute where
  name : String
  dataType : Option String := none
  access : AccessLevel
  deriving DecidableEq, Repr

/-- Constraints that an ALLOW rule on a fixed layer puts on that layer. An
empty style set allows every style. -/
structure LayerDetails where
  defaultStyle : Option String := none
  cqlFilterRead : Option String := none
  cqlFilterWrite : Option String := none
  allowedArea : Option Geometry := none
  spatialFilter : Option SpatialFilter := none
  catalogMode : Option CatalogMode := none
  /-- A set, kept ascending without repeats. -/
  allowedStyles : List String := []
  attributes : List LayerAttribute := []
  deriving DecidableEq, Repr

/-- The spatial restriction of a LIMIT rule. -/
structure RuleLimits where
  allowedArea : Option Geometry := none
  spatialFilter : Option SpatialFilter := none
  catalogMode : Option CatalogMode := none
  deriving DecidableEq, Repr

/-- A grant with the payload that grant may carry. -/
inductive Access where
  | allow (details : Option LayerDetails)
  | deny
  | limit (limits : Option RuleLimits)
  deriving DecidableEq, Repr

namespace Access

/-- The grant without payload. -/
def empty : Grant → Access
  | .allow => .allow none
  | .deny => .deny
  | .limit => .limit none

/-- The grant of an access. -/
def grant : Access → Grant
  | .allow _ => .allow
  | .deny => .deny
  | .limit _ => .limit

/-- The layer details of an ALLOW access. -/
def layerDetails : Access → Option LayerDetails
  | .allow d => d
  | _ => none

/-- The limits of a LIMIT access. -/
def limits : Access → Option RuleLimits
  | .limit l => l
  | _ => none

end Access

/-- The dimensions a rule fixes; `none` is the wildcard. -/
structure RuleIdentifier where
  instanceName : Option String := none
  username : Option String := none
  rolename : Option String := none
  service : Option String := none
  request : Option String := none
  subfield : Option String := none
  workspace : Option String := none
  layer : Option String := none
  addressRange : Option AddressRange := none
  deriving DecidableEq, Repr

/-- The fixed dimensions as `label=value`, joined by commas, or `*` when the
identifier fixes none. -/
def RuleIdentifier.render (i : RuleIdentifier) : String :=
  let labelled : List (String × Option String) :=
    [("instance", i.instanceName), ("user", i.username), ("role", i.rolename),
     ("service", i.service), ("request", i.request), ("subfield", i.subfield),
     ("workspace", i.workspace), ("layer", i.layer),
     ("address", i.addressRange.map AddressRange.render)]
  match labelled.filterMap fun (l, v) => v.map (l ++ "=" ++ ·) with
  | [] => "*"
  | parts => ", ".intercalate parts

/-- A data access rule. -/
structure Rule where
  id : Option Nat := none
  externalId : Option String := none
  name : Option String := none
  description : Option String := none
  priority : Int := 0
  ident : RuleIdentifier := {}
  access : Access
  deriving DecidableEq, Repr

namespace Rule

/-- The grant of a rule. -/
def grant (r : Rule) : Grant := r.access.grant

/-- What must be unique among the stored rules that are not LIMIT: the
identifier and the grant. -/
def identityKey (r : Rule) : RuleIdentifier × Grant := (r.ident, r.grant)

/-- A rule of a grant without payload, priority 0 and every dimension open. -/
def ofGrant (g : Grant) : Rule := { access := Access.empty g }

/-- A rule with the given access, priority 0 and every dimension open. -/
def ofAccess (a : Access) : Rule := { access := a }

def withId (r : Rule) (n : Nat) : Rule := { r with id := some n }
def withPriority (r : Rule) (p : Int) : Rule := { r with priority := p }
def withName (r : Rule) (s : String) : Rule := { r with name := some s }
def withDescription (r : Rule) (s : String) : Rule := { r with description := some s }
def withExternalId (r : Rule) (s : String) : Rule := { r with externalId := some s }
def withIdentifier (r : Rule) (i : RuleIdentifier) : Rule := { r with ident := i }
def withInstance (r : Rule) (s : String) : Rule :=
  { r with ident := { r.ident with instanceName := some s } }
def withUsername (r : Rule) (s : String) : Rule :=
  { r with ident := { r.ident with username := some s } }
def withRolename (r : Rule) (s : String) : Rule :=
  { r with ident := { r.ident with rolename := some s } }
def withService (r : Rule) (s : String) : Rule :=
  { r with ident := { r.ident with service := some s } }
def withRequest (r : Rule) (s : String) : Rule :=
  { r with ident := { r.ident with request := some s } }
def withSubfield (r : Rule) (s : String) : Rule :=
  { r with ident := { r.ident with subfield := some s } }
def withWorkspace (r : Rule) (s : String) : Rule :=
  { r with ident := { r.ident with workspace := some s } }
def withLayer (r : Rule) (s : String) : Rule :=
  { r with ident := { r.ident with layer := some s } }
def withAddressRange (r : Rule) (a : AddressRange) : Rule :=
  { r with ident := { r.ident with addressRange := some a } }
def withAccess (r : Rule) (a : Access) : Rule := { r with access := a }

/-- Replaces the payload of an ALLOW rule; other rules are kept as they are. -/
def withLayerDetails (r : Rule) (d : LayerDetails) : Rule :=
  match r.access with
  | .allow _ => { r with access := .allow (some d) }
  | _ => r

/-- Replaces the payload of a LIMIT rule; other rules are kept as they are. -/
def withLimits (r : Rule) (l : RuleLimits) : Rule :=
  match r.access with
  | .limit _ => { r with access := .limit (some l) }
  | _ => r

end Rule

namespace LayerDetails

def withAllowedStyles (d : LayerDetails) (styles : List String) : LayerDetails :=
  { d with allowedStyles := TextSet.ofList styles }
def withAttributes (d : LayerDetails) (as : List LayerAttribute) : LayerDetails :=
  { d with attributes := as }
def withAllowedArea (d : LayerDetails) (g : Geometry) : LayerDetails :=
  { d with allowedArea := some g }
def withSpatialFilter (d : LayerDetails) (f : SpatialFilter) : LayerDetails :=
  { d with spatialFilter := some f }
def withCatalogMode (d : LayerDetails) (m : CatalogMode) : LayerDetails :=
  { d with catalogMode := some m }
def withDefaultStyle (d : LayerDetails) (s : String) : LayerDetails :=
  { d with defaultStyle := some s }
def withCqlFilterRead (d : LayerDetails) (s : String) : LayerDetails :=
  { d with cqlFilterRead := some s }
def withCqlFilterWrite (d : LayerDetails) (s : String) : LayerDetails :=
  { d with cqlFilterWrite := some s }

end LayerDetails

namespace RuleLimits

def withAllowedArea (l : RuleLimits) (g : Geometry) : RuleLimits :=
  { l with allowedArea := some g }
def withSpatialFilter (l : RuleLimits) (f : SpatialFilter) : RuleLimits :=
  { l with spatialFilter := some f }
def withCatalogMode (l : RuleLimits) (m : CatalogMode) : RuleLimits :=
  { l with catalogMode := some m }

end RuleLimits

end GeoAccess
