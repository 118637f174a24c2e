import GeoAccess.Rule.Json

/-!
# Admin rules

An admin rule says whether a user, a role, or everyone is an administrator
(ADMIN) or a plain user (USER) of an instance's workspace. Its identifier has
four dimensions, each fixed or the wildcard, and the access; the whole
identifier, access included, is unique among the stored admin rules.

- `AdminIdentifier.render` writes
  `instance=X, user=X, role=X, workspace=X, access=ADMIN`, with `*` for an
  open dimension.
- As JSON an admin rule is one flat object like a rule, with `access`
  required.
-/

namespace GeoAccess

/-- What an admin rule grants. -/
inductive AdminGrant where
  | admin
  | user
  deriving DecidableEq, Repr

namespace AdminGrant

/-- The name of an admin grant. -/
def name : AdminGrant → String
  | .admin => "ADMIN"
  | .user => "USER"

/-- The admin grants with their names. -/
def named : List (String × AdminGrant) := [("ADMIN", .admin), ("USER", .user)]

end AdminGrant

/-- The dimensions and access of an admin rule. -/
structure AdminIdentifier where
  instanceName : Option String := none
  username : Option String := none
  rolename : Option String := none
  workspace : Option String := none
  access : AdminGrant
  deriving DecidableEq, Repr

/-- The identifier with `*` for each open dimension. -/
def AdminIdentifier.render (i : AdminIdentifier) : String :=
  let show_ := fun (v : Option String) => v.getD "*"
  "instance=" ++ show_ i.instanceName ++ ", user=" ++ show_ i.username ++ ", role=" ++
    show_ i.rolename ++ ", workspace=" ++ show_ i.workspace ++ ", access=" ++ i.access.name

/-- An admin rule. -/
structure AdminRule where
  id : Option Nat := none
  externalId : Option String := none
  name : Option String := none
  description : Option String := none
  priority : Int := 0
  ident : AdminIdentifier
  deriving DecidableEq, Repr

namespace AdminRule

/-- The access an admin rule grants. -/
def access (r : AdminRule) : AdminGrant := r.ident.access

/-- An admin rule of a grant, priority 0 and every dimension open. -/
def ofGrant (g : AdminGrant) : AdminRule := { ident := { access := g } }

def withId (r : AdminRule) (n : Nat) : AdminRule := { r with id := some n }
def withPriority (r : AdminRule) (p : Int) : AdminRule := { r with priority := p }
def withName (r : AdminRule) (s : String) : AdminRule := { r with name := some s }
def withDescription (r : AdminRule) (s : String) : AdminRule := { r with description := some s }
def withExternalId (r : AdminRule) (s : String) : AdminRule := { r with externalId := some s }
def withInstance (r : AdminRule) (s : String) : AdminRule :=
  { r with ident := { r.ident with instanceName := some s } }
def withUsername (r : AdminRule) (s : String) : AdminRule :=
  { r with ident := { r.ident with username := some s } }
def withRolename (r : AdminRule) (s : String) : AdminRule :=
  { r with ident := { r.ident with rolename := some s } }
def withWorkspace (r : AdminRule) (s : String) : AdminRule :=
  { r with ident := { r.ident with workspace := some s } }
def withAccess (r : AdminRule) (g : AdminGrant) : AdminRule :=
  { r with ident := { r.ident with access := g } }

/-- The object of an admin rule. -/
def toJson (r : AdminRule) : Json :=
  .present [("id", r.id.map Json.nat), ("external_id", r.externalId.map .str),
    ("name", r.name.map .str), ("description", r.description.map .str),
    ("priority", some (.int r.priority)), ("instance", r.ident.instanceName.map .str),
    ("username", r.ident.username.map .str), ("rolename", r.ident.rolename.map .str),
    ("workspace", r.ident.workspace.map .str), ("access", some (.str r.access.name))]

end AdminRule

namespace Decode

/-- An admin grant name. -/
def adminGrant : Decoder AdminGrant :=
  enumName AdminGrant.named

/-- Reads one member of an admin identifier. -/
def adminIdentifierStep (acc : AdminIdentifier × Option AdminGrant) (k : String) (v : Datum) :
    Except DecodeError (AdminIdentifier × Option AdminGrant) :=
  let (i, g) := acc
  match k with
  | "instance" => do return ({ i with instanceName := ← option text v }, g)
  | "username" => do return ({ i with username := ← option text v }, g)
  | "rolename" => do return ({ i with rolename := ← option text v }, g)
  | "workspace" => do return ({ i with workspace := ← option text v }, g)
  | _ => do return (i, some (← adminGrant v))

/-- An admin identifier from the members of an object; `access` is required. -/
def adminIdentifierOf (fields : List (String × Datum)) : Except DecodeError AdminIdentifier := do
  let (i, g) ← members ["instance", "username", "rolename", "workspace", "access"]
    adminIdentifierStep ({ access := .user }, none) [] (byName fields)
  let g ← required "access" g
  return { i with access := g }

/-- An admin rule from the members of an object. -/
def adminRuleOf (fields : List (String × Datum)) : Except DecodeError AdminRule := do
  let r ← members ownKeys (fun (r : AdminRule) k v =>
    match k with
    | "id" => do return { r with id := ← option u64 v }
    | "external_id" => do return { r with externalId := ← option text v }
    | "name" => do return { r with name := ← option text v }
    | "description" => do return { r with description := ← option text v }
    | _ => do return { r with priority := ← i64 v }) (AdminRule.ofGrant .user) [] (byName fields)
  let ident ← adminIdentifierOf (fields.filter (·.1 ∉ ownKeys))
  return { r with ident }

/-- An admin rule. -/
def adminRule (j : Datum) : Except DecodeError AdminRule := do
  adminRuleOf (textKeyed (← object "struct AdminRule" j))

end Decode

end GeoAccess
