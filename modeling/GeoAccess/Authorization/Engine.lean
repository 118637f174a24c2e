import GeoAccess.Store.Rules
import GeoAccess.Store.AdminRules
import GeoAccess.Decision.Merge

/-!
# Answering requests from the stores

The engine reads its candidates from the two stores on every query.

- `matchingRules`: none for a request whose address does not read; otherwise
  the stored rules that match it, in ascending priority, ties by identifier.
- `adminAuthorization`: the matching admin rule of lowest priority (the
  lowest identifier among equals) decides. No match is no admin right. The
  decision names the rule's workspace, or else the request's, only when it
  grants ADMIN.
- `accessInfo`: the merge of the matching rules; when the request names a
  workspace, the admin decision for it fills in the admin rights, which never
  change the grant.
-/

namespace GeoAccess

/-- The stores a query reads and the geometry engine that merges areas. -/
structure Engine where
  rules : RuleStore
  adminRules : AdminRuleStore
  geometry : GeometryEngine

namespace Engine

/-- The rules that apply to a request, in ascending priority. -/
def matchingRules (e : Engine) (q : AccessRequest) : List Rule :=
  if q.failsClosed then []
  else byPriority ((e.rules.findAll { filter := some q }).filter (·.matches q))

/-- The first of the admin rules with the lowest priority. -/
def lowest : List AdminRule → Option AdminRule
  | [] => none
  | r :: rs =>
    match lowest rs with
    | some m => if m.priority < r.priority then some m else some r
    | none => some r

/-- The admin rule that decides an admin request. -/
def topAdminRule (e : Engine) (q : AdminAccessRequest) : Option AdminRule :=
  lowest ((e.adminRules.findAll { filter := some q }).filter (·.matches q))

/-- The admin decision on a request. -/
def adminAuthorization (e : Engine) (q : AdminAccessRequest) : AdminAccessInfo :=
  match e.topAdminRule q with
  | none => {}
  | some r =>
    let admin := r.access = .admin
    { admin
      workspace := if admin then r.ident.workspace.or q.workspace else none
      matchingAdminRuleId := r.id }

/-- The decision on a data request. -/
def accessInfo (e : Engine) (q : AccessRequest) : Except AuthorizationError AccessInfo := do
  let info ← (coalesce e.geometry (e.matchingRules q)).mapError .evaluation
  match q.adminRequest with
  | some aq =>
    let admin := e.adminAuthorization aq
    return { info with adminRights := admin.admin, matchingAdminRuleId := admin.matchingAdminRuleId }
  | none => return info

end Engine

end GeoAccess
