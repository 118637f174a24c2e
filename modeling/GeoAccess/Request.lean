import GeoAccess.Rule.Json

/-!
# Requests

What a caller asks about: a data access request names who asks (user, roles),
from where (source address) and for what (instance, service, request,
subfield, workspace, layer); an admin access request names who asks and for
which instance and workspace. Every part may be absent. Roles form a set.

- `AccessRequest.adminRequest` is the admin question a data request implies:
  it exists exactly when the request names a workspace, and carries the user,
  roles, instance and workspace.
- `toJson` leaves out absent parts and an empty role set; `Decode.accessRequest`
  and `Decode.adminAccessRequest` read every part as optional.
-/

namespace GeoAccess

/-- A data access request. -/
structure AccessRequest where
  user : Option String := none
  /-- A set, kept ascending without repeats. -/
  roles : List String := []
  instanceName : Option String := none
  /-- The source address as given, not yet read. -/
  sourceAddress : Option String := none
  service : Option String := none
  request : Option String := none
  subfield : Option String := none
  workspace : Option String := none
  layer : Option String := none
  deriving DecidableEq, Repr

/-- An admin access request. -/
structure AdminAccessRequest where
  user : Option String := none
  /-- A set, kept ascending without repeats. -/
  roles : List String := []
  instanceName : Option String := none
  workspace : Option String := none
  deriving DecidableEq, Repr

namespace AccessRequest

/-- The admin question a data request implies, when it names a workspace. -/
def adminRequest (q : AccessRequest) : Option AdminAccessRequest :=
  q.workspace.map fun w =>
    { user := q.user, roles := q.roles, instanceName := q.instanceName, workspace := some w }

def withUser (q : AccessRequest) (s : String) : AccessRequest := { q with user := some s }
def withRoles (q : AccessRequest) (rs : List String) : AccessRequest :=
  { q with roles := TextSet.ofList rs }
def withInstance (q : AccessRequest) (s : String) : AccessRequest :=
  { q with instanceName := some s }
def withSourceAddress (q : AccessRequest) (s : String) : AccessRequest :=
  { q with sourceAddress := some s }
def withService (q : AccessRequest) (s : String) : AccessRequest := { q with service := some s }
def withRequest (q : AccessRequest) (s : String) : AccessRequest := { q with request := some s }
def withSubfield (q : AccessRequest) (s : String) : AccessRequest := { q with subfield := some s }
def withWorkspace (q : AccessRequest) (s : String) : AccessRequest :=
  { q with workspace := some s }
def withLayer (q : AccessRequest) (s : String) : AccessRequest := { q with layer := some s }

/-- The object of a request. -/
def toJson (q : AccessRequest) : Json :=
  .present [("user", q.user.map .str), ("roles", Json.nonEmpty .str q.roles),
    ("instance", q.instanceName.map .str), ("source_address", q.sourceAddress.map .str),
    ("service", q.service.map .str), ("request", q.request.map .str),
    ("subfield", q.subfield.map .str), ("workspace", q.workspace.map .str),
    ("layer", q.layer.map .str)]

end AccessRequest

namespace AdminAccessRequest

def withUser (q : AdminAccessRequest) (s : String) : AdminAccessRequest :=
  { q with user := some s }
def withRoles (q : AdminAccessRequest) (rs : List String) : AdminAccessRequest :=
  { q with roles := TextSet.ofList rs }
def withInstance (q : AdminAccessRequest) (s : String) : AdminAccessRequest :=
  { q with instanceName := some s }
def withWorkspace (q : AdminAccessRequest) (s : String) : AdminAccessRequest :=
  { q with workspace := some s }

/-- The object of an admin request. -/
def toJson (q : AdminAccessRequest) : Json :=
  .present [("user", q.user.map .str), ("roles", Json.nonEmpty .str q.roles),
    ("instance", q.instanceName.map .str), ("workspace", q.workspace.map .str)]

end AdminAccessRequest

namespace Decode

/-- Reads one part of a data request. -/
def requestStep (q : AccessRequest) (k : String) (v : Datum) : Except DecodeError AccessRequest :=
  match k with
  | "user" => do return { q with user := ← option text v }
  | "roles" => do return { q with roles := ← textSet v }
  | "instance" => do return { q with instanceName := ← option text v }
  | "source_address" => do return { q with sourceAddress := ← option text v }
  | "service" => do return { q with service := ← option text v }
  | "request" => do return { q with request := ← option text v }
  | "subfield" => do return { q with subfield := ← option text v }
  | "workspace" => do return { q with workspace := ← option text v }
  | _ => do return { q with layer := ← option text v }

/-- A data request; every part may be absent. -/
def accessRequest (j : Datum) : Except DecodeError AccessRequest := do
  let fields ← object "struct AccessRequest" j
  members ["user", "roles", "instance", "source_address", "service", "request", "subfield",
    "workspace", "layer"] requestStep {} [] fields

/-- Reads one part of an admin request. -/
def adminRequestStep (q : AdminAccessRequest) (k : String) (v : Datum) :
    Except DecodeError AdminAccessRequest :=
  match k with
  | "user" => do return { q with user := ← option text v }
  | "roles" => do return { q with roles := ← textSet v }
  | "instance" => do return { q with instanceName := ← option text v }
  | _ => do return { q with workspace := ← option text v }

/-- An admin request; every part may be absent. -/
def adminAccessRequest (j : Datum) : Except DecodeError AdminAccessRequest := do
  let fields ← object "struct AdminAccessRequest" j
  members ["user", "roles", "instance", "workspace"] adminRequestStep {} [] fields

end Decode

end GeoAccess
