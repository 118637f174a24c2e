import GeoAccess.Request
import GeoAccess.Admin.Rule
import GeoAccess.Text.Ascii

/-!
# Matching rules against requests

Whether a rule applies to a request, dimension by dimension. A wildcard
dimension of the rule matches anything; a fixed one matches only a request
that names a value for it:

- the user exactly, case and all;
- the role by membership in the request's role set, exactly;
- instance, service, request, subfield, workspace and layer up to the case of
  ASCII letters.

The source address is read once, after trimming blanks. A request whose
source address is present but unreadable fails closed: no rule applies to it,
whatever its range. Otherwise a rule without a range matches any address, and
a rule with a range matches a request only if the request has an address and
the range contains it.

- `RuleIdentifier.matchesStructure` is the conjunction over the dimensions,
  leaving the address aside.
- `Source.matchesRange` is the address gate, `Rule.matches` both together.
- `filterRules` keeps the rules that match, none for a request that fails
  closed.
- `AdminRule.matches` checks user, role, instance and workspace the same way.
-/

namespace GeoAccess

/-- A fixed value matched exactly; the wildcard matches anything. -/
def matchExact : Option String → Option String → Bool
  | none, _ => true
  | some v, some w => v == w
  | some _, none => false

/-- A fixed value matched up to the case of ASCII letters. -/
def matchFolded : Option String → Option String → Bool
  | none, _ => true
  | some v, some w => Text.eqFold v w
  | some _, none => false

/-- A fixed role matched by membership in the role set. -/
def matchRole : Option String → List String → Bool
  | none, _ => true
  | some r, roles => roles.contains r

/-- What a request's source address turned out to be. -/
inductive Source where
  | absent
  | valid (a : IpAddr)
  | invalid
  deriving DecidableEq, Repr

namespace Source

/-- Reads a source address after trimming blanks. -/
def read : Option String → Source
  | none => .absent
  | some raw =>
    match IpAddr.parse (Text.trimBlank raw) with
    | some a => .valid a
    | none => .invalid

/-- Whether the request fails closed. -/
def failsClosed : Source → Bool
  | .invalid => true
  | _ => false

/-- The address gate of a rule with an optional range. -/
def matchesRange : Source → Option AddressRange → Bool
  | .invalid, _ => false
  | _, none => true
  | .valid a, some r => r.contains a
  | .absent, some _ => false

end Source

/-- The source of a request. -/
def AccessRequest.source (q : AccessRequest) : Source := Source.read q.sourceAddress

/-- Whether a request fails closed: it gives an address that does not read. -/
def AccessRequest.failsClosed (q : AccessRequest) : Bool := q.source.failsClosed

/-- The dimensions other than the address all match. -/
def RuleIdentifier.matchesStructure (i : RuleIdentifier) (q : AccessRequest) : Bool :=
  matchExact i.username q.user && matchRole i.rolename q.roles &&
    matchFolded i.instanceName q.instanceName && matchFolded i.service q.service &&
    matchFolded i.request q.request && matchFolded i.subfield q.subfield &&
    matchFolded i.workspace q.workspace && matchFolded i.layer q.layer

/-- A rule applies to a request: every dimension matches and the address gate
lets it through. -/
def Rule.matches (r : Rule) (q : AccessRequest) : Bool :=
  r.ident.matchesStructure q && q.source.matchesRange r.ident.addressRange

/-- The rules that apply to a request, in their order; none when the request
fails closed. -/
def filterRules (q : AccessRequest) (rules : List Rule) : List Rule :=
  if q.failsClosed then [] else rules.filter (·.matches q)

/-- An admin rule applies to an admin request. -/
def AdminRule.matches (r : AdminRule) (q : AdminAccessRequest) : Bool :=
  matchExact r.ident.username q.user && matchRole r.ident.rolename q.roles &&
    matchFolded r.ident.instanceName q.instanceName && matchFolded r.ident.workspace q.workspace

/-- A request that fails closed matches no rule. -/
theorem Rule.matches_of_failsClosed {q : AccessRequest} (h : q.failsClosed = true) (r : Rule) :
    r.matches q = false := by
  unfold Rule.matches
  unfold AccessRequest.failsClosed at h
  cases hs : q.source <;> simp_all [Source.failsClosed, Source.matchesRange]

end GeoAccess
