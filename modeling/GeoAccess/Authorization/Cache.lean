import GeoAccess.Authorization.Engine

/-!
# Answer caches

Two caches keyed by request: one for data access decisions, one for admin
decisions. Requests are compared as values, roles as sets. A failed query is
never cached.

Changes announced by the stores evict the answers they may have made wrong:
- a creation evicts nothing;
- an update or deletion of data rules evicts the access answers that rest on
  one of them (`AccessInfo.dependsOnRule`);
- an update or deletion of admin rules evicts the admin answers and the access
  answers whose deciding admin rule is one of them.
-/

namespace GeoAccess

/-- The cached answers. -/
structure AnswerCache where
  access : List (AccessRequest × AccessInfo) := []
  admin : List (AdminAccessRequest × AdminAccessInfo) := []
  deriving Repr

namespace AnswerCache

/-- The cached access answer of a request. -/
def findAccess? (c : AnswerCache) (q : AccessRequest) : Option AccessInfo := c.access.lookup q

/-- The cached admin answer of a request. -/
def findAdmin? (c : AnswerCache) (q : AdminAccessRequest) : Option AdminAccessInfo :=
  c.admin.lookup q

/-- Caches an access answer. -/
def putAccess (c : AnswerCache) (q : AccessRequest) (i : AccessInfo) : AnswerCache :=
  { c with access := (q, i) :: c.access.filter (·.1 != q) }

/-- Caches an admin answer. -/
def putAdmin (c : AnswerCache) (q : AdminAccessRequest) (i : AdminAccessInfo) : AnswerCache :=
  { c with admin := (q, i) :: c.admin.filter (·.1 != q) }

/-- Evicts what a change may have made wrong. -/
def handleEvent (c : AnswerCache) (e : AclEvent) : AnswerCache :=
  if !e.eventType.invalidates then c
  else match e.kind with
    | .rule =>
      { c with access := c.access.filter fun (_, i) => !e.ruleIds.any i.dependsOnRule }
    | .adminRule =>
      { access := c.access.filter fun (_, i) => !e.ruleIds.any i.dependsOnAdminRule
        admin := c.admin.filter fun (_, i) => !e.ruleIds.any i.dependsOnAdminRule }

end AnswerCache

end GeoAccess
